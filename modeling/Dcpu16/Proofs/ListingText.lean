import Dcpu16.Proofs.Frame
import Dcpu16.Proofs.StraightLine
import Mathlib.Data.List.Nodup

/-!
The text of an instruction against its words. No two operands are written alike (`Mode.text_inj`): what stands around the
digits of a program word tells the mode, and the digits tell the word. The mnemonic ends at the first blank and operand A at
the first comma. So a line of a listing can be taken apart again, and of a defined instruction the text says as much as the
words (`listing_text_eq_iff`). For an undefined instruction this fails, as its text leaves out the word that its selector
takes.
-/

namespace Dcpu16

/-! ### Mnemonics -/

namespace Action

/-- All actions. -/
def all : List Action :=
  [.set, .compute .add, .compute .sub, .compute .mul, .compute .div, .compute .mod, .compute .shl, .compute .shr,
    .compute .and, .compute .bor, .compute .xor, .test .equal, .test .different, .test .greater, .test .common, .call,
    .undefined]

theorem mem_all (a : Action) : a ∈ all := by
  cases a with
  | compute op => cases op <;> decide
  | test t => cases t <;> decide
  | set | call | undefined => decide

/-- No two actions have the same mnemonic. -/
theorem mnemonic_inj {a b : Action} (h : a.mnemonic = b.mnemonic) : a = b := by
  have distinct : (all.map mnemonic).Nodup := by decide
  exact List.inj_on_of_nodup_map distinct a.mem_all b.mem_all h

theorem blank_not_mem_mnemonic (a : Action) : ' ' ∉ a.mnemonic.toList := by
  have solid : ∀ a ∈ all, ' ' ∉ a.mnemonic.toList := by decide
  exact solid a a.mem_all

end Action

/-! ### Operands -/

theorem Word.length_chars (w : Word) : w.chars.length = 4 := by
  have short : (Nat.toDigits 16 w.toNat).length ≤ 4 := by
    rw [Nat.length_toDigits_le_iff (by decide) (by decide)]
    exact w.isLt
  have nonneg : ¬ (w.toNat : Int) < 0 := by omega
  simp only [chars, address, Numeral.HexStyle.text, wordStyle, Numeral.hexDigits, nonneg, if_false, if_true,
    String.toList_ofList, Int.natAbs_natCast, List.length_append, List.length_map, List.length_replicate, List.length_nil]
  omega

theorem Word.chars_inj {v w : Word} (h : v.chars = w.chars) : v = w := by
  have read := v.readWord_token
  rw [token_eq, h, ← token_eq, w.readWord_token] at read
  have same : w.address = v.address := Except.ok.inj read
  rw [← ofInt_address v, ← ofInt_address w, same]

namespace Mode

/-- What stands before the program word in the text of an operand. Without a program word it is the whole text. -/
def opening : Mode → List Char
  | offset _ | absolute => ['[', '0', 'x']
  | immediate => ['0', 'x']
  | m => (m.text 0).toList

/-- What stands after the program word. -/
def closing : Mode → List Char
  | offset r => '+' :: r.name.toList ++ [']']
  | absolute => [']']
  | _ => []

/-- The digits of the program word. -/
def digits (m : Mode) (w : Word) : List Char := if m.takesWord then w.chars else []

theorem toList_text (m : Mode) (w : Word) : (m.text w.address).toList = m.opening ++ (m.digits w ++ m.closing) := by
  cases m with
  | offset r => simp [text, opening, digits, closing, takesWord, Word.chars]
  | absolute => simp [text, opening, digits, closing, takesWord, Word.chars]
  | immediate => simp [text, opening, digits, closing, takesWord, Word.chars]
  | direct | indirect | pop | peek | push | literal => simp [text, opening, digits, closing, takesWord]

/-- The number of characters of the text. -/
def width (m : Mode) : Nat := m.opening.length + (4 * m.extraWords + m.closing.length)

theorem length_text (m : Mode) (w : Word) : (m.text w.address).toList.length = m.width := by
  have digits : (m.digits w).length = 4 * m.extraWords := by
    unfold Mode.digits extraWords
    cases m.takesWord <;> simp [w.length_chars]
  rw [toList_text, List.length_append, List.length_append, digits, width]

/-- The width tells where the program word stands: the shortest text with a program word is that of an immediate. -/
theorem placement {f : Nat} (hf : f < 64) :
    (ofNat f).takesWord = decide (6 ≤ (ofNat f).width) ∧
      (ofNat f).opening.length = if (ofNat f).width < 6 then (ofNat f).width else if (ofNat f).width = 6 then 2 else 3 := by
  revert f
  decide +kernel

section Fields

variable {f g : Nat} (hf : f < 64) (hg : g < 64)

include hf hg

theorem field_eq (opening : (ofNat f).opening = (ofNat g).opening) (closing : (ofNat f).closing = (ofNat g).closing) :
    f = g := by
  have distinct : ((List.range 64).map fun f => ((ofNat f).opening, (ofNat f).closing)).Nodup := by decide +kernel
  exact List.inj_on_of_nodup_map distinct (List.mem_range.2 hf) (List.mem_range.2 hg) (Prod.ext opening closing)

/-- **The text of an operand tells its field and its program word.** -/
theorem text_inj {v w : Word} (h : (ofNat f).text v.address = (ofNat g).text w.address) :
    f = g ∧ ((ofNat f).takesWord → v = w) := by
  have chars : (ofNat f).opening ++ ((ofNat f).digits v ++ (ofNat f).closing) =
      (ofNat g).opening ++ ((ofNat g).digits w ++ (ofNat g).closing) := by
    rw [← toList_text, ← toList_text, h]
  have width : (ofNat f).width = (ofNat g).width := by
    rw [← length_text _ v, ← length_text _ w, h]
  have taken : (ofNat f).takesWord = (ofNat g).takesWord := by rw [(placement hf).1, width, ← (placement hg).1]
  have before : (ofNat f).opening.length = (ofNat g).opening.length := by rw [(placement hf).2, width, ← (placement hg).2]
  obtain ⟨opening, rest⟩ := List.append_inj chars before
  have between : ((ofNat f).digits v).length = ((ofNat g).digits w).length := by
    unfold digits
    rw [taken]
    split <;> simp [Word.length_chars]
  obtain ⟨digits, closing⟩ := List.append_inj rest between
  refine ⟨field_eq hf hg opening closing, fun takes => ?_⟩
  unfold Mode.digits at digits
  rw [← taken, if_pos takes, if_pos takes] at digits
  exact Word.chars_inj digits

end Fields

theorem comma_not_mem_text {f : Nat} (hf : f < 64) (w : Word) : ',' ∉ ((ofNat f).text w.address).toList := by
  have around : ',' ∉ (ofNat f).opening ∧ ',' ∉ (ofNat f).closing := by
    revert f
    decide +kernel
  have inside : ',' ∉ (ofNat f).digits w := by
    intro comma
    unfold digits at comma
    split at comma
    · exact absurd (w.writesHex_chars.mem_alphabet comma) (by decide)
    · cases comma
  rw [toList_text]
  simp [around, inside]

end Mode

/-! ### Instructions -/

/-- Where a character first comes, a text is cut in only one way. -/
theorem eq_of_append_cons_eq {c : Char} {xs ys before after : List Char} (h : xs ++ c :: before = ys ++ c :: after)
    (hx : c ∉ xs) (hy : c ∉ ys) : xs = ys ∧ before = after := by
  have cut {xs rest : List Char} (hx : c ∉ xs) : (xs ++ c :: rest).span (· ≠ c) = (xs, c :: rest) := by
    refine Numeral.span_append (fun x hx' => ?_) (fun x hx' => ?_)
    · simp only [ne_eq, decide_eq_true_eq]
      rintro rfl
      exact hx hx'
    · cases hx'
      simp
  have parts := congrArg (List.span (· ≠ c)) h
  rw [cut hx, cut hy] at parts
  obtain ⟨same, rest⟩ := Prod.mk.inj parts
  exact ⟨same, (List.cons.inj rest).2⟩

namespace Operation

variable (op : Operation)

theorem toList_text (ne : op.operands ≠ []) :
    op.text.toList = op.mnemonic.toList ++ ' ' :: (", ".intercalate op.operands).toList := by
  unfold text
  split
  next none => exact absurd none ne
  next => simp

/-- The columns of words agree exactly if the words do. -/
theorem hexWords_eq_iff {op op' : Operation} : op.hexWords = op'.hexWords ↔ op.words = op'.words := by
  constructor
  · intro h
    have tokens : op.words.map Word.token = op'.words.map Word.token := by
      rw [← words_hexWords, h, words_hexWords]
    refine List.map_injective_iff.2 (fun v w hvw => ?_) tokens
    rw [Word.token_eq, Word.token_eq] at hvw
    exact Word.chars_inj (List.map_injective_iff.2 (fun c d hcd => CodePoint.char.inj hcd) hvw)
  · intro h
    unfold hexWords
    rw [← words, ← words, h]

end Operation

namespace Space

variable (s t : Space) (a b : Int)

/-- The instruction at an address. -/
def instructionAt : Instruction := .ofWord (s.cell a)

/-- The text of operand A of the instruction at an address. -/
def textA : String := (s.instructionAt a).modeA.text (s.following a 0).address

/-- The text of operand B of the instruction at an address. -/
def textB : String := (s.instructionAt a).modeB.text (s.following a (s.instructionAt a).modeA.extraWords).address

theorem operands_of_call (h : (s.instructionAt a).action = .call) : (s.operationAt a).operands = [s.textB a] := by
  unfold instructionAt at h
  simp [operationAt, h, textB, instructionAt]

theorem operands_of_ne (call : (s.instructionAt a).action ≠ .call) (defined : (s.instructionAt a).action ≠ .undefined) :
    (s.operationAt a).operands = [s.textA a, s.textB a] := by
  unfold instructionAt at call defined
  simp only [operationAt, textA, textB, instructionAt]

theorem operands_ne_nil : (s.operationAt a).operands ≠ [] := by
  unfold operationAt
  simp only
  split <;> simp

variable {s t a b}

/-- The words of two instructions are the same if their fields are and the program words that their operands take. -/
theorem words_operationAt_eq_iff :
    (s.operationAt a).words = (t.operationAt b).words ↔ s.instructionAt a = t.instructionAt b ∧
      ((s.instructionAt a).modeA.takesWord → s.following a 0 = t.following b 0) ∧
      ((s.instructionAt a).modeB.takesWord → s.following a (s.instructionAt a).modeA.extraWords =
        t.following b (s.instructionAt a).modeA.extraWords) := by
  have cells : s.cell a = t.cell b ↔ s.instructionAt a = t.instructionAt b := by
    constructor
    · intro h
      rw [instructionAt, h, instructionAt]
    · intro h
      rw [← Instruction.toWord_ofWord (s.cell a), ← Instruction.toWord_ofWord (t.cell b)]
      exact congrArg Instruction.toWord h
  have trailing {takesA takesB : Bool} {v v' w w' : Word} :
      (if takesA then [v] else []) ++ (if takesB then [w] else []) =
        (if takesA then [v'] else []) ++ (if takesB then [w'] else []) ↔
      (takesA → v = v') ∧ (takesB → w = w') := by
    cases takesA <;> cases takesB <;> simp
  have split (s : Space) (a : Int) : (s.operationAt a).words = s.cell a ::
      ((if (s.instructionAt a).modeA.takesWord then [s.following a 0] else []) ++
        (if (s.instructionAt a).modeB.takesWord then
          [s.following a (s.instructionAt a).modeA.extraWords] else [])) := rfl
  rw [split, split, List.cons.injEq, cells]
  refine and_congr_right fun same => ?_
  rw [← same, trailing]

/-- Instructions with the same text do the same and have the same operands as they are shown. -/
theorem action_eq_of_text_eq (h : (s.operationAt a).text = (t.operationAt b).text) :
    (s.instructionAt a).action = (t.instructionAt b).action ∧
      (", ".intercalate (s.operationAt a).operands).toList = (", ".intercalate (t.operationAt b).operands).toList := by
  have texts := congrArg String.toList h
  rw [Operation.toList_text _ (s.operands_ne_nil a), Operation.toList_text _ (t.operands_ne_nil b)] at texts
  obtain ⟨mnemonic, operands⟩ := eq_of_append_cons_eq texts
    (s.instructionAt a).action.blank_not_mem_mnemonic (t.instructionAt b).action.blank_not_mem_mnemonic
  exact ⟨Action.mnemonic_inj (String.toList_inj.1 mnemonic), operands⟩

/-- **The text of a defined instruction tells its words.** -/
theorem words_eq_of_text_eq (defined : (s.instructionAt a).action ≠ .undefined)
    (h : (s.operationAt a).text = (t.operationAt b).text) : (s.operationAt a).words = (t.operationAt b).words := by
  obtain ⟨action, operands⟩ := action_eq_of_text_eq h
  have opcode : (s.instructionAt a).opcode = (t.instructionAt b).opcode := by
    apply BitVec.eq_of_toNat_eq
    rw [Instruction.toNat_opcode, action, Instruction.toNat_opcode]
  have fields (fieldA : (s.instructionAt a).a = (t.instructionAt b).a)
      (fieldB : (s.instructionAt a).b = (t.instructionAt b).b) : s.instructionAt a = t.instructionAt b := by
    cases hi : s.instructionAt a
    cases hj : t.instructionAt b
    rw [hi, hj] at opcode fieldA fieldB
    simp only [Instruction.mk.injEq]
    exact ⟨opcode, fieldA, fieldB⟩
  by_cases call : (s.instructionAt a).action = .call
  · -- a call shows operand B only, but its selector is known and takes no word
    rw [operands_of_call s a call, operands_of_call t b (action ▸ call)] at operands
    have fieldA : (s.instructionAt a).a = (t.instructionAt b).a := by
      rw [Instruction.a_of_call call, Instruction.a_of_call (action ▸ call)]
    have textB : s.textB a = t.textB b := by simpa [String.toList_inj] using operands
    obtain ⟨fieldB, wordB⟩ := Mode.text_inj (BitVec.isLt _) (BitVec.isLt _) textB
    have same := fields fieldA (BitVec.eq_of_toNat_eq fieldB)
    have none : ¬ (s.instructionAt a).modeA.takesWord := by
      rw [Instruction.modeA_of_call call]
      decide
    refine words_operationAt_eq_iff.2 ⟨same, fun takes => absurd takes none, fun takes => ?_⟩
    rw [wordB takes, ← same]
  · rw [operands_of_ne s a call defined, operands_of_ne t b (action ▸ call) (action ▸ defined)] at operands
    have joined : (s.textA a).toList ++ ',' :: ' ' :: (s.textB a).toList =
        (t.textA b).toList ++ ',' :: ' ' :: (t.textB b).toList := by
      simpa using operands
    obtain ⟨textA, rest⟩ := eq_of_append_cons_eq joined
      (Mode.comma_not_mem_text (BitVec.isLt _) _) (Mode.comma_not_mem_text (BitVec.isLt _) _)
    have textB : s.textB a = t.textB b := String.toList_inj.1 (List.cons.inj rest).2
    obtain ⟨fieldA, wordA⟩ := Mode.text_inj (BitVec.isLt _) (BitVec.isLt _) (String.toList_inj.1 textA)
    obtain ⟨fieldB, wordB⟩ := Mode.text_inj (BitVec.isLt _) (BitVec.isLt _) textB
    have same := fields (BitVec.eq_of_toNat_eq fieldA) (BitVec.eq_of_toNat_eq fieldB)
    refine words_operationAt_eq_iff.2 ⟨same, wordA, fun takes => ?_⟩
    rw [wordB takes, ← same]

/-- Instructions with the same words have the same text. -/
theorem text_eq_of_words_eq (h : (s.operationAt a).words = (t.operationAt b).words) :
    (s.operationAt a).text = (t.operationAt b).text := by
  obtain ⟨same, wordA, wordB⟩ := words_operationAt_eq_iff.1 h
  unfold instructionAt at same wordA wordB
  have textA := Mode.text_congr fun takes => congrArg Word.address (wordA takes)
  have textB := Mode.text_congr fun takes => congrArg Word.address (wordB takes)
  simp only [operationAt, Operation.text, ← same, textA, textB]

/-- **The text of a line says as much as its words**, whatever the spaces and the addresses are: defined instructions have
the same text exactly if they have the same column of words, and that is, if the instruction word and the words after it are
the same. -/
theorem listing_text_eq_iff (defined : (s.operationAt a).mnemonic ≠ "UNKNOWN") :
    ∃ l k, s.listing a 1 = [l] ∧ t.listing b 1 = [k] ∧ (l.text = k.text ↔ l.words = k.words) ∧
      (l.words = k.words ↔ (s.operationAt a).word = (t.operationAt b).word ∧
        (s.operationAt a).trailing = (t.operationAt b).trailing) := by
  have known : (s.instructionAt a).action ≠ .undefined := by
    intro h
    refine defined ?_
    show (s.instructionAt a).action.mnemonic = _
    rw [h]
    rfl
  refine ⟨_, _, rfl, rfl, ⟨fun text => ?_, fun words => ?_⟩, ?_⟩
  · exact Operation.hexWords_eq_iff.2 (words_eq_of_text_eq known text)
  · exact text_eq_of_words_eq (Operation.hexWords_eq_iff.1 words)
  · exact Operation.hexWords_eq_iff.trans List.cons_eq_cons

/-- An instruction of three words, and the same one around the end of memory, under the other policy. -/
theorem listing_text_eq_iff_around_end :
    let s : Space := Space.loadWords {} [0x7D61, 0x1000, 0x20] 0x30
    let t : Space := Space.loadWords { policy := .wrap } [0x7D61, 0x1000, 0x20] 0xFFFF
    (s.operationAt 0x30).mnemonic ≠ "UNKNOWN" ∧
      s.listing 0x30 1 = [⟨0x30, "7D61 1000 0020", "SET [0x1000+I], 0x0020"⟩] ∧
      (t.listing 0xFFFF 1).map Line.words = ["7D61 1000 0020"] ∧ (t.operationAt 0xFFFF).trailing = [0x1000, 0x20] := by
  intro s t
  have defined : (s.operationAt 0x30).mnemonic ≠ "UNKNOWN" := by decide
  have first : s.listing 0x30 1 = [⟨0x30, "7D61 1000 0020", "SET [0x1000+I], 0x0020"⟩] := by decide
  obtain ⟨l, k, hl, hk, texts, words⟩ := listing_text_eq_iff (t := t) (b := 0xFFFF) defined
  obtain ⟨rfl, -⟩ := List.cons.inj (hl.symm.trans first)
  have text : (t.listing 0xFFFF 1).map Line.text = ["SET [0x1000+I], 0x0020"] := by decide
  rw [hk] at text ⊢
  have same := texts.1 (List.cons.inj text).1.symm
  exact ⟨defined, first, congrArg (fun w => [w]) same.symm, (words.1 same).2.symm.trans (by decide)⟩

/-- The text of an undefined instruction does not show the word that its selector takes. -/
example :
    let s (w : Int) : Space := Space.loadWords {} [0x01F0, w] 0
    ((s 1).operationAt 0).text = "UNKNOWN 0x1F, A" ∧ ((s 2).operationAt 0).text = "UNKNOWN 0x1F, A" ∧
      ((s 1).operationAt 0).hexWords ≠ ((s 2).operationAt 0).hexWords := by
  decide

end Space

end Dcpu16
