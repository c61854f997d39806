import Dcpu16.Proofs.Description
import Dcpu16.Proofs.Loading

/-!
The machine that a description builds, read off the description. Words, image and registers are put in one after the other,
each over what came before: of all that is for one cell, and of all names for one register, the last one counts. A name that
no register has leaves the machine alone and adds one warning (`warnings_foldl_setRegister`), so what comes after it is still set.
-/

namespace Dcpu16

open Entries (lastValue?)

/-! ### Names of registers -/

namespace Register

/-- Whether a name is that of a register, in any case of the letters. -/
def isName (name : Text) : Bool := all.any fun r => name.upper = Text.ofString r.name

theorem ofName_eq_ok_iff {name : Text} {r : Register} : ofName name = .ok r ↔ name.upper = Text.ofString r.name := by
  refine ⟨ofName_eq_ok, fun h => ?_⟩
  have named : ∀ r ∈ all, named? (Text.ofString r.name) = some r := by decide
  simp only [ofName, h, named r r.mem_all]

theorem isName_iff {name : Text} : isName name ↔ ∃ r, ofName name = .ok r := by
  simp only [isName, List.any_eq_true, decide_eq_true_eq, ofName_eq_ok_iff]
  constructor
  · rintro ⟨r, -, h⟩
    exact ⟨r, h⟩
  · rintro ⟨r, h⟩
    exact ⟨r, r.mem_all, h⟩

end Register

/-! ### Registers set by name -/

namespace Machine

variable (m : Machine)

/-- Setting a register by name changes it exactly if the name is its own. -/
theorem get_setNamed (name : Text) (value : Int) (r : Register) :
    (m.setNamed name value).space.registers.get r =
      if name.upper = Text.ofString r.name then Word.ofInt value else m.space.registers.get r := by
  by_cases own : name.upper = Text.ofString r.name
  · rw [setNamed, Register.ofName_eq_ok_iff.2 own, if_pos own]
    exact Registers.get_set_self ..
  · rw [if_neg own, setNamed]
    cases h : Register.ofName name with
    | ok q =>
      have other : r ≠ q := by
        rintro rfl
        exact own (Register.ofName_eq_ok h)
      show (m.space.registers.set q (Word.ofInt value)).get r = _
      rw [Registers.get_set, if_neg other]
    | error e => rfl

/-- Of the values for the names of a register the last one stays. -/
theorem get_setAllNamed (entries : List (Text × Int)) (r : Register) :
    (m.setAllNamed entries).space.registers.get r =
      ((lastValue? (fun name => name.upper = Text.ofString r.name) entries).map Word.ofInt).getD
        (m.space.registers.get r) := by
  refine Entries.read_foldl (fun m : Machine => m.space.registers.get r) (fun m e => ?_) entries m
  simp only [get_setNamed, decide_eq_true_eq]

/-- Setting registers by name changes nothing but registers. -/
theorem exists_setAllNamed_eq (entries : List (Text × Int)) : ∃ saved, m.setAllNamed entries = m.restore saved := by
  induction entries generalizing m with
  | nil => exact ⟨m.space.registers, rfl⟩
  | cons e entries ih =>
    obtain ⟨saved, h⟩ := ih (m.setNamed e.1 e.2)
    refine ⟨saved, h.trans ?_⟩
    rw [setNamed]
    cases Register.ofName e.1 <;> rfl

end Machine

namespace Built

theorem warnings_setRegister (b : Built) (name : Text) (value : Int) :
    (b.setRegister name value).warnings = b.warnings ++ if Register.isName name then [] else [unknownRegister name] := by
  rw [setRegister]
  cases h : Register.ofName name with
  | ok r => simp [Register.isName_iff, h]
  | error e => simp [Register.isName_iff, h]

/-- Each name that no register has gives one warning. -/
theorem warnings_foldl_setRegister (b : Built) (entries : List (Text × Int)) :
    (entries.foldl (fun b (name, value) => b.setRegister name value) b).warnings =
      b.warnings ++ (entries.filter fun e => !Register.isName e.1).map fun e => unknownRegister e.1 := by
  induction entries generalizing b with
  | nil => simp
  | cons e entries ih =>
    rw [List.foldl_cons, ih, warnings_setRegister, List.append_assoc]
    by_cases named : Register.isName e.1 <;> simp [named]

end Built

namespace Config

variable (c : Config)

/-! ### The image -/

/-- A description has an image: none, which is an empty one, or that of its file. -/
inductive HasImage (folder : Folder) : List (Int × Int) → Prop where
  | absent (h : c.program.file.isEmpty) : HasImage folder []
  | file {path text : Text} {image : List (Int × Int)} (named : c.program.file = .text path) (ne : path ≠ [])
      (found : folder.read path = .ok text) (read : Image.read text c.program.origin = .ok image) : HasImage folder image

theorem imagePairs_of_hasImage {c : Config} {folder : Folder} {image : List (Int × Int)} (h : c.HasImage folder image) :
    c.imagePairs folder = .ok image := by
  cases h with
  | absent h => rw [imagePairs, if_pos h]
  | @file path text image named ne found read =>
    have present : ¬ c.program.file.isEmpty := by
      rw [named]
      simpa [Value.isEmpty] using ne
    rw [imagePairs, if_neg present, named]
    simp only [found, read, Except.mapError, bind, Except.bind]

/-! ### What a description says -/

/-- The value that a register starts with if no name sets it. -/
def pointerValue : Register → Int
  | .PC => c.initialState.pc
  | .SP => c.initialState.sp
  | _ => 0

/-- The value that a register starts with: the last one for a name of its. -/
def startValue (r : Register) : Int :=
  (lastValue? (fun name => name.upper = Text.ofString r.name) c.initialState.registers.entries).getD (c.pointerValue r)

/-- The pairs for the words of the program. -/
def placedWords : List (Int × Int) := Space.placed c.program.words c.program.origin

/-- The value that a cell starts with: the last one for it in the image, or else among the words of the program. -/
def startCell (image : List (Int × Int)) (a : Int) : Int :=
  ((lastValue? (fun b => c.policy.normalize a = c.policy.normalize b) image).or
    (lastValue? (fun b => c.policy.normalize a = c.policy.normalize b) c.placedWords)).getD 0

theorem exists_machine_assembled (image : List (Int × Int)) :
    ∃ saved, (c.assembled image).machine = ((c.loaded image).reset c.initialState.pc).restore saved := by
  rw [assembled, Built.machine_foldl_setRegister]
  exact Machine.exists_setAllNamed_eq _ _

/-- **The machine of a description.** A description with an image can be built. Each register has the low sixteen bits of the
last value for a name of its, and without one the program counter and the stack pointer have the value that is given for
them and the others zero. The names that no register has give one warning each, in order. Each cell has the low sixteen bits
of the last word for it in the image, or else in the program, or else zero, and the cells that are listed are those for which
there is a word. Nothing is pending, no step is counted, and the symbols are those of the description. -/
theorem build_of_hasImage {folder : Folder} {image : List (Int × Int)} (has : c.HasImage folder image) :
    ∃ b, c.build folder = .ok b ∧
      (∀ r, b.machine.space.registers.get r = Word.ofInt (c.startValue r)) ∧
      b.warnings = (c.initialState.registers.entries.filter fun e => !Register.isName e.1).map
        (fun e => Built.unknownRegister e.1) ∧
      (∀ a, b.machine.space.inspect (.cell a) = Word.ofInt (c.startCell image a)) ∧
      (∀ a, a ∈ b.machine.space.memory.map Prod.fst ↔
        ∃ pair ∈ c.placedWords ++ image, c.policy.normalize pair.1 = a) ∧
      b.machine.space.policy = c.policy ∧ b.machine.space.log = [] ∧ b.machine.stepCount = 0 ∧
      b.machine.symbols = c.symbols := by
  refine ⟨c.assembled image, ?_, fun r => ?_, ?_, ?_⟩
  · rw [build_eq, imagePairs_of_hasImage has]
    rfl
  · rw [assembled, Built.machine_foldl_setRegister, Machine.get_setAllNamed, startValue]
    cases lastValue? (fun name => decide (name.upper = Text.ofString r.name)) c.initialState.registers.entries with
    | some v => rfl
    | none => cases r <;> rfl
  · rw [assembled, Built.warnings_foldl_setRegister]
    rfl
  obtain ⟨saved, machine⟩ := c.exists_machine_assembled image
  have loaded : (c.loaded image).space = ({ policy := c.policy } : Space).loadPairs (c.placedWords ++ image) := by
    rw [Space.loadPairs_append, placedWords, ← Space.loadWords_eq]
    rfl
  rw [machine]
  refine ⟨fun a => ?_, fun a => ?_, ?_, ?_, rfl, rfl⟩
  · show (c.loaded image).space.cell a = _
    rw [loaded, Space.cell_loadPairs, Entries.lastValue?_append, startCell]
    cases (lastValue? (fun b => decide (c.policy.normalize a = c.policy.normalize b)) image).or
      (lastValue? (fun b => decide (c.policy.normalize a = c.policy.normalize b)) c.placedWords) <;> rfl
  · show a ∈ (c.loaded image).space.memory.map Prod.fst ↔ _
    rw [loaded, Space.mem_keys_memory_loadPairs]
    simp [Space.mem_keys_memory]
  · show (c.loaded image).space.policy = _
    rw [loaded, Space.loadPairs_eq]
  · show (c.loaded image).space.log = _
    rw [loaded, Space.loadPairs_eq]

/-- Names of one register in two cases of the letters, with a name of none between them, and an image that puts its last word
where the program has one, under another number. -/
theorem build_of_hasImage_aliased :
    let text : Text := Text.ofString "10: 7 8 ; twice\n10001: 9"
    let folder : Folder := Folder.ofFiles [] 0 [] [(Text.ofString "p.hex", text)]
    let image : List (Int × Int) := [(0x10, 7), (0x11, 8), (0x10001, 9)]
    let c : Config :=
      { policy := .wrap
        initialState :=
          { pc := 0x10010
            sp := -2
            registers := ⟨[("a", 1), ("q", 2), ("A", -1), ("x", 0x10003)], by decide⟩ }
        program := { origin := 0xFFFF, words := [1, 2, 3], file := .text (Text.ofString "p.hex") } }
    c.HasImage folder image ∧ ∃ b, c.build folder = .ok b ∧
      b.machine.space.registers = { a := 0xFFFF, x := 3, sp := 0xFFFE, pc := 0x10 } ∧
      b.warnings = [Text.ofString "Unknown register 'q' in initial_state, ignoring"] ∧
      b.machine.space.inspect (.cell (-1)) = 1 ∧ b.machine.space.inspect (.cell 1) = 9 ∧
      (0x11 ∈ b.machine.space.memory.map Prod.fst) ∧ b.machine.space.log = [] := by
  intro text folder image c
  have has : c.HasImage folder image := .file rfl (by decide) (show folder.read _ = .ok text by decide) (by decide)
  obtain ⟨b, built, registers, warnings, cells, listed, -, log, -⟩ := c.build_of_hasImage has
  refine ⟨has, b, built, Registers.ext_get fun r => ?_, ?_, ?_, ?_, ?_, log⟩
  · rw [registers]
    cases r <;> decide
  · rw [warnings]
    decide
  · rw [cells]
    decide
  · rw [cells]
    decide
  · rw [listed]
    exact ⟨(0x11, 8), by decide, by decide⟩

end Config

end Dcpu16
