import Dcpu16.Proofs.Spelling
import Mathlib.Data.List.Forall2

/-!
Descriptions written as data. A description may be written in many ways (`Renders`): names in any case of the letters, each
integer in a spelling of its own, what has its default left out, and sections without entries null or left out. A description
whose file is null or a path can be written (`allEntries_renders`), and all ways to write it are read as the description
(`ofData_of_renders`). The latter goes part by part: of each part there is one lemma that says that it is read as what it
gives.
-/

namespace Dcpu16

open Numeral (WritesHex WritesInteger)
open Text (ofChars)

/-! ### Names in any case of the letters -/

/-- Two texts have the same letters, in any case. -/
def SameLetters (cs ds : List Char) : Prop := cs.map Char.toLower = ds.map Char.toLower

theorem toUpper_toLower (c : Char) : c.toLower.toUpper = c.toUpper := by
  cases c using Numeral.toLower_cases with
  | capital n lower upper => interval_cases n <;> decide
  | other c same => rw [same]

/-- Only letters of ASCII have small forms in ASCII. -/
theorem ascii_of_toLower {c : Char} (h : c.toLower.toNat < 0x80) : c.toNat < 0x80 := by
  cases c using Numeral.toLower_cases with
  | capital n lower upper => interval_cases n <;> decide
  | other c same => rwa [same] at h

namespace SameLetters

variable {cs ds : List Char} (h : SameLetters cs ds)

include h

theorem toUpper : cs.map Char.toUpper = ds.map Char.toUpper := by
  have capitals (cs : List Char) : cs.map Char.toUpper = (cs.map Char.toLower).map Char.toUpper := by
    rw [List.map_map]
    exact List.map_congr_left fun c _ => (toUpper_toLower c).symm
  rw [capitals cs, h, ← capitals ds]

theorem ascii (small : ∀ d ∈ ds.map Char.toLower, d.toNat < 0x80) : ∀ c ∈ cs, c.toNat < 0x80 := by
  intro c hc
  exact ascii_of_toLower (small _ (h ▸ List.mem_map_of_mem hc))

end SameLetters

namespace Text

theorem upper_ofChars {cs : List Char} (ascii : ∀ c ∈ cs, c.toNat < 0x80) :
    upper (ofChars cs) = ofChars (cs.map Char.toUpper) := by
  induction cs with
  | nil => rfl
  | cons c cs ih =>
    obtain ⟨first, rest⟩ := List.forall_mem_cons.1 ascii
    show capital (.char c) ++ upper (ofChars cs) = _
    rw [ih rest, capital, if_pos first]
    rfl

theorem lower_ofChars {cs : List Char} (ascii : ∀ c ∈ cs, c.toNat < 0x80) :
    lower (ofChars cs) = ofChars (cs.map Char.toLower) := by
  have after (before : Text) : lowerAfter before (ofChars cs) = ofChars (cs.map Char.toLower) := by
    induction cs generalizing before with
    | nil => rfl
    | cons c cs ih =>
      obtain ⟨first, rest⟩ := List.forall_mem_cons.1 ascii
      show small before (.char c) (ofChars cs) ++ lowerAfter (.char c :: before) (ofChars cs) = _
      rw [ih rest]
      simp only [small, if_pos first]
      rfl
  exact after []

end Text

/-! ### Tables -/

namespace Table

variable {α : Type}

theorem entries_insert_of_not_mem (t : Table α) {name : Text} (new : name ∉ t.entries.map Prod.fst) (value : α) :
    (t.insert name value).entries = t.entries ++ [(name, value)] := by
  have put (entries : List (Text × α)) (new : name ∉ entries.map Prod.fst) :
      Entries.put (· == ·) name value entries = entries ++ [(name, value)] := by
    induction entries with
    | nil => rfl
    | cons e entries ih =>
      rw [List.map_cons, List.mem_cons, not_or] at new
      have other : ¬ (e.1 == name) := by
        simpa using Ne.symm new.1
      rw [Entries.put, if_neg other, ih new.2, List.cons_append]
  exact put t.entries new

/-- Giving the names of a table their values in order makes the table again. -/
theorem ofPairs_entries (t : Table α) : ofPairs t.entries = t := by
  have fill (pairs : List (Text × α)) (s : Table α) (distinct : ((s.entries ++ pairs).map Prod.fst).Nodup) :
      (pairs.foldl (fun t e => t.insert e.1 e.2) s).entries = s.entries ++ pairs := by
    induction pairs generalizing s with
    | nil => simp
    | cons e pairs ih =>
      have new : e.1 ∉ s.entries.map Prod.fst := by
        rw [List.map_append, List.map_cons, List.nodup_append] at distinct
        exact fun h => distinct.2.2 _ h _ (List.mem_cons_self ..) rfl
      have entries := s.entries_insert_of_not_mem new e.2
      rw [List.foldl_cons, ih, entries, List.append_assoc]
      · rfl
      · rw [entries, List.append_assoc]
        exact distinct
  exact Table.ext (fill t.entries ∅ t.nodup)

end Table

/-! ### Parts of a description -/

namespace Config

section Parts

variable (entries : List (Value × Value)) (key : Text)

/-- A key gives an integer, or is left out for the default. -/
inductive GivesInteger (default : Int) : Int → Prop where
  | absent (h : Value.lookup key entries = none) : GivesInteger default default
  | spelled {v : Value} {n : Int} (h : Value.lookup key entries = some v) (spells : Spells v n) : GivesInteger default n

/-- A key gives a section. One without entries may be left out or null. -/
inductive GivesSection : List (Value × Value) → Prop where
  | absent (h : Value.lookup key entries = none) : GivesSection []
  | null (h : Value.lookup key entries = some .null) : GivesSection []
  | entries {part : List (Value × Value)} (h : Value.lookup key entries = some (.map part)) : GivesSection part

/-- A key gives a table of integers, in order. -/
def GivesTable (t : Table Int) : Prop :=
  ∃ part, GivesSection entries key part ∧
    List.Forall₂ (fun entry named => entry.1 = .text named.1 ∧ Spells entry.2 named.2) part t.entries

/-- The budget is given, or there is none. -/
inductive GivesMaxSteps : Option Int → Prop where
  | absent (h : Value.lookup "max_steps" entries = none) : GivesMaxSteps none
  | null (h : Value.lookup "max_steps" entries = some .null) : GivesMaxSteps none
  | spelled {v : Value} {n : Int} (h : Value.lookup "max_steps" entries = some v) (spells : Spells v n) :
      GivesMaxSteps (some n)

/-- The words of a program are given, or there are none. -/
inductive GivesWords : List Int → Prop where
  | absent (h : Value.lookup "words" entries = none) : GivesWords []
  | spelled {items : List Value} {words : List Int} (h : Value.lookup "words" entries = some (.list items))
      (spells : List.Forall₂ Spells items words) : GivesWords words

/-- The file of a program is given, or there is none. -/
inductive GivesFile : Value → Prop where
  | absent (h : Value.lookup "file" entries = none) : GivesFile .null
  | null (h : Value.lookup "file" entries = some .null) : GivesFile .null
  | path {path : Text} (h : Value.lookup "file" entries = some (.text path)) : GivesFile (.text path)

/-- The policy is named, or left out for the sparse one. -/
inductive GivesPolicy : Policy → Prop where
  | absent (h : Value.lookup "address_policy" entries = none) : GivesPolicy .sparse
  | named (cs : List Char) {p : Policy} (h : Value.lookup "address_policy" entries = some (.text (ofChars cs)))
      (letters : SameLetters cs p.name.toList) : GivesPolicy p

/-- The architecture is named or left out. -/
inductive GivesArchitecture : Prop where
  | absent (h : Value.lookup "architecture" entries = none) : GivesArchitecture
  | named (cs : List Char) (h : Value.lookup "architecture" entries = some (.text (ofChars cs)))
      (letters : SameLetters cs architecture.toList) : GivesArchitecture

end Parts

/-- Entries write the registers to start with. -/
structure RendersInitialState (entries : List (Value × Value)) (s : InitialState) : Prop where
  pc : GivesInteger entries "pc" 0 s.pc
  sp : GivesInteger entries "sp" 0 s.sp
  registers : GivesTable entries "registers" s.registers

/-- Entries write a program. -/
structure RendersProgram (entries : List (Value × Value)) (p : Program) : Prop where
  origin : GivesInteger entries "origin" 0 p.origin
  words : GivesWords entries p.words
  file : GivesFile entries p.file

/-- Entries write a description. -/
structure Renders (entries : List (Value × Value)) (c : Config) : Prop where
  architecture : GivesArchitecture entries
  policy : GivesPolicy entries c.policy
  maxSteps : GivesMaxSteps entries c.maxSteps
  initialState : ∃ part, GivesSection entries "initial_state" part ∧ RendersInitialState part c.initialState
  program : ∃ part, GivesSection entries "program" part ∧ RendersProgram part c.program
  symbols : GivesTable entries "symbols" c.symbols

/-! ### Written in full -/

/-- The entries that write a table. -/
def tableEntries (t : Table Int) : List (Value × Value) := t.entries.map fun (name, n) => (.text name, .int n)

/-- The entries that write the registers to start with. -/
def stateEntries (s : InitialState) : List (Value × Value) :=
  [(.text "pc", .int s.pc), (.text "sp", .int s.sp), (.text "registers", .map (tableEntries s.registers))]

/-- The entries that write a program. -/
def programEntries (p : Program) : List (Value × Value) :=
  [(.text "origin", .int p.origin), (.text "words", .list (p.words.map .int)), (.text "file", p.file)]

/-- The entries that write a description with all of its keys. -/
def allEntries (c : Config) : List (Value × Value) :=
  [(.text "architecture", .text architecture), (.text "address_policy", .text c.policy.name),
    (.text "max_steps", c.maxSteps.elim .null .int), (.text "initial_state", .map (stateEntries c.initialState)),
    (.text "program", .map (programEntries c.program)), (.text "symbols", .map (tableEntries c.symbols))]

theorem tableEntries_spells (t : Table Int) :
    List.Forall₂ (fun entry named => entry.1 = .text named.1 ∧ Spells entry.2 named.2) (tableEntries t) t.entries := by
  rw [tableEntries, List.forall₂_map_left_iff]
  exact List.forall₂_same.2 fun e _ => ⟨rfl, .integer e.2⟩

theorem stateEntries_renders (s : InitialState) : RendersInitialState (stateEntries s) s where
  pc := .spelled rfl (.integer s.pc)
  sp := .spelled rfl (.integer s.sp)
  registers := ⟨_, .entries rfl, tableEntries_spells s.registers⟩

theorem programEntries_renders {p : Program} (file : p.file = .null ∨ ∃ path, p.file = .text path) :
    RendersProgram (programEntries p) p where
  origin := .spelled rfl (.integer p.origin)
  words := by
    refine .spelled rfl ?_
    rw [List.forall₂_map_left_iff]
    exact List.forall₂_same.2 fun n _ => .integer n
  file := by
    have given : Value.lookup "file" (programEntries p) = some p.file := rfl
    rcases file with h | ⟨path, h⟩
    · rw [h] at given ⊢
      exact .null given
    · rw [h] at given ⊢
      exact .path given

/-- A description whose file is null or a path can be written. -/
theorem allEntries_renders {c : Config} (file : c.program.file = .null ∨ ∃ path, c.program.file = .text path) :
    Renders (allEntries c) c where
  architecture := .named architecture.toList rfl rfl
  policy := .named c.policy.name.toList rfl rfl
  maxSteps := by
    have given : Value.lookup "max_steps" (allEntries c) = some (c.maxSteps.elim .null .int) := rfl
    cases h : c.maxSteps with
    | none =>
      rw [h] at given
      exact .null given
    | some n =>
      rw [h] at given
      exact .spelled given (.integer n)
  initialState := ⟨_, .entries rfl, stateEntries_renders c.initialState⟩
  program := ⟨_, .entries rfl, programEntries_renders file⟩
  symbols := ⟨_, .entries rfl, tableEntries_spells c.symbols⟩

/-! ### Reading the parts -/

section Reading

variable {entries : List (Value × Value)} {key : Text} (table : Collections)

theorem integerAt_of_gives {default n : Int} (h : GivesInteger entries key default n) :
    integerAt table entries key default = .ok n := by
  cases h with
  | absent h => simp only [integerAt, h]
  | spelled h spells =>
    simp only [integerAt, h]
    exact integerOf_of_spells spells table

theorem sectionOf_of_gives {part : List (Value × Value)} (h : GivesSection entries key part) (request : String) :
    sectionOf table request (Value.lookup key entries) = .ok part := by
  cases h with
  | absent h => rw [h, sectionOf]
  | null h =>
    rw [h]
    rfl
  | entries h =>
    rw [h]
    cases part <;> rfl

theorem namedIntegers_of_spells {part : List (Value × Value)} {named : List (Text × Int)}
    (h : List.Forall₂ (fun entry named => entry.1 = .text named.1 ∧ Spells entry.2 named.2) part named) :
    namedIntegers table part = .ok named := by
  induction h with
  | nil => rfl
  | @cons entry named part rest first later ih =>
    obtain ⟨key, v⟩ := entry
    obtain ⟨rfl, spells⟩ := first
    rw [namedIntegers, integerOf_of_spells spells table, ih]
    rfl

theorem tableAt_of_gives {t : Table Int} (h : GivesTable entries key t) : tableAt table entries key = .ok t := by
  obtain ⟨part, gives, spells⟩ := h
  rw [tableAt, sectionOf_of_gives table gives "items"]
  show (do return Table.ofPairs (← namedIntegers table part)) = _
  rw [namedIntegers_of_spells table spells]
  show Except.ok (Table.ofPairs t.entries) = _
  rw [t.ofPairs_entries]

theorem mapM_integerOf_of_spells {items : List Value} {words : List Int} (h : List.Forall₂ Spells items words) :
    items.mapM (integerOf table) = .ok words := by
  induction h with
  | nil => rfl
  | cons first rest ih =>
    rw [List.mapM_cons, integerOf_of_spells first table, ih]
    rfl

theorem integersAt_of_gives {words : List Int} (h : GivesWords entries words) :
    integersAt table entries "words" = .ok words := by
  cases h with
  | absent h => simp only [integersAt, h]
  | spelled h spells =>
    simp only [integersAt, h]
    exact mapM_integerOf_of_spells table spells

theorem resolve_of_gives {file : Value} (h : GivesFile entries file) :
    table.resolve ((Value.lookup "file" entries).getD .null) = file := by
  cases h with
  | absent h => rw [h]; rfl
  | null h => rw [h]; rfl
  | path h => rw [h]; rfl

theorem maxStepsOf_of_gives {budget : Option Int} (h : GivesMaxSteps entries budget) :
    maxStepsOf table entries = .ok budget := by
  cases h with
  | absent h => simp only [maxStepsOf, h]
  | null h => simp only [maxStepsOf, h]
  | @spelled v n h spells =>
    have given : v ≠ .null := by
      rintro rfl
      cases spells
    simp only [maxStepsOf, h, integerOf_of_spells spells table]
    rfl

theorem policyOf_of_gives {p : Policy} (h : GivesPolicy entries p) : policyOf table entries = .ok p := by
  obtain ⟨cs, given, letters⟩ : ∃ cs, (Value.lookup "address_policy" entries).getD (.text Policy.sparse.name) =
      .text (ofChars cs) ∧ SameLetters cs p.name.toList := by
    cases h with
    | absent h => exact ⟨_, by rw [h]; rfl, rfl⟩
    | named cs h letters => exact ⟨_, by rw [h]; rfl, letters⟩
  have small : Text.lower (ofChars cs) = Text.ofString p.name := by
    rw [Text.lower_ofChars (letters.ascii (List.all_iff_forall_prop.1 (by cases p <;> decide))), letters]
    cases p <;> decide
  have named : Policy.named? (Text.ofString p.name) = some p := by cases p <;> decide
  have text : textOf table (.text (ofChars cs)) = .ok (ofChars cs) := rfl
  simp only [policyOf, given, text, bind, Except.bind, small, named]

theorem checkArchitecture_of_gives (h : GivesArchitecture entries) : checkArchitecture table entries = .ok () := by
  obtain ⟨cs, given, letters⟩ : ∃ cs, (Value.lookup "architecture" entries).getD (.text architecture) =
      .text (ofChars cs) ∧ SameLetters cs architecture.toList := by
    cases h with
    | absent h => exact ⟨_, by rw [h]; rfl, rfl⟩
    | named cs h letters => exact ⟨_, by rw [h]; rfl, letters⟩
  have capitals : Text.upper (ofChars cs) = Text.ofString architecture := by
    rw [Text.upper_ofChars (letters.ascii (List.all_iff_forall_prop.1 (by decide))), letters.toUpper]
    decide
  have text : textOf table (.text (ofChars cs)) = .ok (ofChars cs) := rfl
  simp only [checkArchitecture, given, text, bind, Except.bind, capitals, if_true]

theorem initialStateOf_of_gives {part : List (Value × Value)} {s : InitialState}
    (gives : GivesSection entries "initial_state" part) (h : RendersInitialState part s) :
    initialStateOf table entries = .ok s := by
  have part := sectionOf_of_gives table gives "get"
  have pc := integerAt_of_gives table h.pc
  have sp := integerAt_of_gives table h.sp
  have registers := tableAt_of_gives table h.registers
  rw [initialStateOf_of_section table part, pc, sp, registers]
  rfl

theorem programOf_of_gives {part : List (Value × Value)} {p : Program} (gives : GivesSection entries "program" part)
    (h : RendersProgram part p) : programOf table entries = .ok p := by
  have part := sectionOf_of_gives table gives "get"
  have origin := integerAt_of_gives table h.origin
  have words := integersAt_of_gives table h.words
  have file := resolve_of_gives table h.file
  rw [programOf_of_section table part, origin, words, file]
  rfl

end Reading

/-! ### Descriptions -/

/-- A written description is read as it is. -/
theorem ofData_of_renders {d : Data} {entries : List (Value × Value)} (value : d.value = .map entries) {c : Config}
    (h : Renders entries c) : ofData d = .ok c := by
  obtain ⟨state, givesState, rendersState⟩ := h.initialState
  obtain ⟨program, givesProgram, rendersProgram⟩ := h.program
  have architecture := checkArchitecture_of_gives d.table h.architecture
  have policy := policyOf_of_gives d.table h.policy
  have maxSteps := maxStepsOf_of_gives d.table h.maxSteps
  have state := initialStateOf_of_gives d.table givesState rendersState
  have program := programOf_of_gives d.table givesProgram rendersProgram
  have symbols := tableAt_of_gives d.table h.symbols
  rw [ofData_of_map value, architecture, policy, maxSteps, state, program, symbols]
  rfl

/-- **A description can be written, and however it is written, it is read back**, its registers and symbols in their order. -/
theorem renders_read_back (c : Config) (file : c.program.file = .null ∨ ∃ path, c.program.file = .text path) :
    (∃ entries, Renders entries c) ∧
      ∀ (d : Data) (entries : List (Value × Value)), d.value = .map entries → Renders entries c → ofData d = .ok c :=
  ⟨⟨allEntries c, allEntries_renders file⟩, fun _ _ value h => ofData_of_renders value h⟩

/-- A description with each kind of spelling, a key that is left out in each section, and a section that is null. -/
theorem renders_read_back_mixed :
    let entries : List (Value × Value) :=
      [(.text "symbols", .null), (.text "max_steps", .text " -0012\n"), (.text "address_policy", .text "WrAp"),
        (.text "initial_state", .map
          [(.text "registers", .map [(.text "b", .text "0X0bEEf"), (.text "A", .int (-3)), (.text "", .text "+7 ")]),
            (.text "pc", .text "0xfF")]),
        (.text "program", .map
          [(.text "file", .text "image.hex"), (.text "words", .list [.text "40", .text "0x28", .int 40])])]
    let c : Config :=
      { policy := .wrap
        maxSteps := some (-12)
        initialState :=
          { pc := 255, registers := ⟨[("b", 48879), ("A", -3), ("", 7)], by decide⟩ }
        program := { words := [40, 40, 40], file := .text "image.hex" } }
    Renders entries c ∧ ofData { root := .map entries } = .ok c := by
  intro entries c
  have twelve : WritesInteger ['-', '0', '0', '1', '2'] (-12) := .minus ⟨⟨2, by decide⟩, by decide⟩
  have seven : WritesInteger ['+', '7'] 7 := .plus ⟨⟨0, by decide⟩, by decide⟩
  have forty : WritesInteger ['4', '0'] 40 := .unsigned ⟨⟨0, by decide⟩, by decide⟩
  have fortyHex : WritesHex ['2', '8'] 40 := ⟨0, by decide⟩
  have beef : WritesHex ['0', 'b', 'E', 'E', 'f'] 0xBEEF := ⟨1, by decide⟩
  have byte : WritesHex ['f', 'F'] 0xFF := ⟨0, by decide⟩
  have policy : SameLetters ['W', 'r', 'A', 'p'] Policy.wrap.name.toList := by
    unfold SameLetters
    decide
  have registers : GivesTable
      [(.text "registers", .map [(.text "b", .text "0X0bEEf"), (.text "A", .int (-3)), (.text "", .text "+7 ")]),
        (.text "pc", .text "0xfF")] "registers" c.initialState.registers :=
    ⟨_, .entries rfl, .cons ⟨rfl, .hexadecimal (Or.inr rfl) beef⟩ (.cons ⟨rfl, .integer (-3)⟩
      (.cons ⟨rfl, .decimal "" " " (by decide) (by decide) seven⟩ .nil))⟩
  have words : GivesWords [(.text "file", .text "image.hex"), (.text "words", .list [.text "40", .text "0x28", .int 40])]
      c.program.words :=
    .spelled rfl (.cons (.decimal "" "" (by decide) (by decide) forty) (.cons (.hexadecimal (Or.inl rfl) fortyHex)
      (.cons (.integer 40) .nil)))
  have rendered : Renders entries c :=
    { architecture := .absent rfl
      policy := .named _ rfl policy
      maxSteps := .spelled rfl (.decimal " " "\n" (by decide) (by decide) twelve)
      initialState := ⟨_, .entries rfl,
        { pc := .spelled rfl (.hexadecimal (Or.inl rfl) byte)
          sp := .absent rfl
          registers }⟩
      program := ⟨_, .entries rfl,
        { origin := .absent rfl
          words
          file := .path rfl }⟩
      symbols := ⟨_, .null rfl, .nil⟩ }
  exact ⟨rendered, (c.renders_read_back (Or.inr ⟨_, rfl⟩)).2 _ entries rfl rendered⟩

end Config

end Dcpu16
