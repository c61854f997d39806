import Dcpu16.Config.Read

/-!
Keys of a description that are null. A key that may be left out may also be null: a section that is null has no entries, and a
budget or a file that is null is none. So null keys can be taken out, any of them and at once, and the same description or
mistake is read. The words of a program are the one exception: they may be left out, but null is no sequence. If they are taken
out, the result changes exactly if they were what the reading failed on (`ofData_without_eq_iff`).

Taking out keys changes what is looked up under a key in one of two ways (`Vacated`), and of each reader there is one lemma
that says that it does not notice. What a section has left is looked up under its key in the same way (`sectionOf_thinned`).
-/

namespace Dcpu16

open Numeral (readInteger)

/-! ### The keys -/

/-- A key of a description that may be left out and, unless it is that of the words, may be null. -/
inductive OptionalKey where
  | maxSteps
  | initialState
  | registers
  | program
  | words
  | file
  | symbols
  deriving DecidableEq, Repr

namespace OptionalKey

/-- The section that a key is in. The others are in the description itself. -/
def place : OptionalKey → Option Text
  | registers => some "initial_state"
  | words => some "program"
  | file => some "program"
  | _ => none

/-- The name of a key in its place. -/
def name : OptionalKey → Text
  | maxSteps => "max_steps"
  | initialState => "initial_state"
  | registers => "registers"
  | program => "program"
  | words => "words"
  | file => "file"
  | symbols => "symbols"

theorem eq_of_name_eq {k l : OptionalKey} (h : k.name = l.name) : k = l := by
  cases k <;> cases l <;> first | rfl | exact absurd h (by decide)

/-- Whether one of some keys has a name in a place. -/
def occurs (keys : List OptionalKey) (place : Option Text) (name : Text) : Bool :=
  keys.any fun k => k.place == place && k.name == name

theorem occurs_iff {keys : List OptionalKey} {place : Option Text} {name : Text} :
    occurs keys place name ↔ ∃ k ∈ keys, k.place = place ∧ k.name = name := by
  simp [occurs]

theorem occurs_self {keys : List OptionalKey} {k : OptionalKey} : occurs keys k.place k.name ↔ k ∈ keys := by
  rw [occurs_iff]
  constructor
  · rintro ⟨l, mem, -, name⟩
    exact eq_of_name_eq name ▸ mem
  · intro mem
    exact ⟨k, mem, rfl, rfl⟩

end OptionalKey

/-! ### Taking keys out -/

namespace Value

/-- Whether a key is a text that passes a test. -/
def isNamed (p : Text → Bool) : Value → Bool
  | text t => p t
  | _ => false

/-- The entries of a map. Other values have none. -/
def entries : Value → List (Value × Value)
  | map entries => entries
  | _ => []

theorem lookup_filter (p : Text → Bool) (name : Text) (entries : List (Value × Value)) :
    lookup name (entries.filter fun e => !e.1.isNamed p) = if p name then none else lookup name entries := by
  induction entries with
  | nil => simp [lookup]
  | cons e entries ih =>
    obtain ⟨key, v⟩ := e
    cases key with
    | text t =>
      by_cases h : t = name
      · subst h
        cases hp : p t <;> simp_all [isNamed, lookup]
      · cases hp : p t <;> simp_all [isNamed, lookup]
    | _ => simpa [isNamed, lookup] using ih

theorem lookup_map (f : Value → Value → Value) (name : Text) (entries : List (Value × Value)) :
    lookup name (entries.map fun e => (e.1, f e.1 e.2)) = (lookup name entries).map (f (.text name)) := by
  induction entries with
  | nil => rfl
  | cons e entries ih =>
    obtain ⟨key, v⟩ := e
    cases key with
    | text t =>
      by_cases h : t = name
      · subst h
        simp [lookup]
      · simpa [lookup, h] using ih
    | _ => simpa [lookup] using ih

theorem entries_of_isEmpty {v : Value} (h : v.isEmpty) : v.entries = [] := by
  cases v with
  | map entries => exact List.isEmpty_iff.1 h
  | _ => rfl

end Value

/-- Changes the entries of a map, or of the map that a value is a reference to. -/
def Collections.inMap (table : Collections) (f : List (Value × Value) → List (Value × Value)) (v : Value) : Value :=
  match table.resolve v with
  | .map entries => .map (f entries)
  | _ => v

namespace Config

/-- The entries that are left in a place without some keys. -/
def remaining (keys : List OptionalKey) (place : Option Text) (entries : List (Value × Value)) : List (Value × Value) :=
  entries.filter fun e => !e.1.isNamed (OptionalKey.occurs keys place)

/-- What is left under a key of a description without some keys. Only the sections that these are in change. -/
def remainder (table : Collections) (keys : List OptionalKey) : Value → Value → Value
  | .text s, v => if keys.any fun k => k.place == some s then table.inMap (remaining keys (some s)) v else v
  | _, v => v

/-- The entries that are left of a description without some keys. -/
def thinned (table : Collections) (keys : List OptionalKey) (entries : List (Value × Value)) : List (Value × Value) :=
  (remaining keys none entries).map fun e => (e.1, remainder table keys e.1 e.2)

end Config

namespace Data

variable (d : Data)

/-- The data without some keys of a description. What else there is of it, in the table too, stays as it is. -/
def without (keys : List OptionalKey) : Data := { d with root := d.table.inMap (Config.thinned d.table keys) d.root }

/-- The entries in a place. -/
def entriesAt : Option Text → List (Value × Value)
  | none => d.value.entries
  | some s => (d.table.resolve ((Value.lookup s d.value.entries).getD .null)).entries

/-- A key is there, and it is null. -/
def IsNull (k : OptionalKey) : Prop := Value.lookup k.name (d.entriesAt k.place) = some .null

theorem value_without {keys : List OptionalKey} {entries : List (Value × Value)} (value : d.value = .map entries) :
    (d.without keys).value = .map (Config.thinned d.table keys entries) := by
  have resolved : d.table.resolve d.root = .map entries := value
  rw [without, Data.value, Collections.inMap, resolved]
  rfl

theorem without_of_no_map {keys : List OptionalKey} (value : ∀ entries, d.value ≠ .map entries) : d.without keys = d := by
  unfold without Collections.inMap
  split
  next entries h => exact absurd h (value entries)
  next => rfl

end Data

/-! ### What is looked up -/

/-- What is looked up under a key that may have been taken out where it was null. -/
inductive Vacated (before after : Option Value) : Prop where
  | same (h : after = before)
  | removed (null : before = some .null) (h : after = none)

namespace Config

section Lookup

variable {keys : List OptionalKey} {entries : List (Value × Value)}

theorem lookup_remaining (place : Option Text) (name : Text) :
    Value.lookup name (remaining keys place entries) =
      if OptionalKey.occurs keys place name then none else Value.lookup name entries :=
  Value.lookup_filter ..

/-- A name that no optional key has in a place. -/
theorem lookup_remaining_of_other {place : Option Text} {name : Text} (other : ∀ k : OptionalKey, k.place = place → k.name ≠ name) :
    Value.lookup name (remaining keys place entries) = Value.lookup name entries := by
  rw [lookup_remaining, if_neg]
  intro h
  obtain ⟨k, -, place, name⟩ := OptionalKey.occurs_iff.1 h
  exact other k place name

theorem vacated_remaining (k : OptionalKey) (null : k ∈ keys → Value.lookup k.name entries = some .null) :
    Vacated (Value.lookup k.name entries) (Value.lookup k.name (remaining keys k.place entries)) := by
  rw [lookup_remaining]
  by_cases mem : k ∈ keys
  · exact .removed (null mem) (if_pos (OptionalKey.occurs_self.2 mem))
  · exact .same (if_neg (mt OptionalKey.occurs_self.1 mem))

theorem remaining_eq_self {place : Option Text} (other : ∀ k ∈ keys, k.place ≠ place) : remaining keys place entries = entries := by
  refine List.filter_eq_self.2 fun e _ => ?_
  have absent (name : Text) : OptionalKey.occurs keys place name = false := by
    rw [Bool.eq_false_iff]
    intro h
    obtain ⟨k, mem, same, -⟩ := OptionalKey.occurs_iff.1 h
    exact other k mem same
  cases h : e.1 <;> simp [Value.isNamed, absent]

theorem lookup_thinned (table : Collections) (name : Text) :
    Value.lookup name (thinned table keys entries) =
      (Value.lookup name (remaining keys none entries)).map (remainder table keys (.text name)) :=
  Value.lookup_map ..

/-- Under a key that is no section's, only what is taken out changes. -/
theorem lookup_thinned_of_no_section (table : Collections) {name : Text} (other : ∀ k : OptionalKey, k.place ≠ some name) :
    Value.lookup name (thinned table keys entries) = Value.lookup name (remaining keys none entries) := by
  have same : remainder table keys (.text name) = id := by
    funext v
    refine if_neg fun h => ?_
    obtain ⟨k, -, place⟩ := List.any_eq_true.1 h
    exact other k (eq_of_beq place)
  rw [lookup_thinned, same, Option.map_id]
  rfl

/-- A key that is neither optional nor a section's. -/
theorem lookup_thinned_of_other (table : Collections) {name : Text} (noSection : ∀ k : OptionalKey, k.place ≠ some name)
    (other : ∀ k : OptionalKey, k.name ≠ name) : Value.lookup name (thinned table keys entries) = Value.lookup name entries := by
  rw [lookup_thinned_of_no_section table noSection]
  exact lookup_remaining_of_other fun k _ => other k

end Lookup

/-! ### Readers do not notice -/

section Readers

variable (table : Collections) {before after : List (Value × Value)}

theorem sectionOf_vacated (request : String) {v w : Option Value} (h : Vacated v w) :
    sectionOf table request w = sectionOf table request v := by
  cases h with
  | same h => rw [h]
  | removed null h =>
    rw [h, null]
    rfl

theorem tableAt_vacated {key : Text} (h : Vacated (Value.lookup key before) (Value.lookup key after)) :
    tableAt table after key = tableAt table before key := by
  rw [tableAt, tableAt, sectionOf_vacated table "items" h]

theorem maxStepsOf_vacated (h : Vacated (Value.lookup "max_steps" before) (Value.lookup "max_steps" after)) :
    maxStepsOf table after = maxStepsOf table before := by
  cases h with
  | same h => simp only [maxStepsOf, h]
  | removed null h => simp only [maxStepsOf, h, null]

theorem getD_vacated {v w : Option Value} (h : Vacated v w) : w.getD .null = v.getD .null := by
  cases h with
  | same h => rw [h]
  | removed null h =>
    rw [h, null]
    rfl

theorem integerAt_congr {key : Text} (h : Value.lookup key after = Value.lookup key before) (default : Int) :
    integerAt table after key default = integerAt table before key default := by
  simp only [integerAt, h]

theorem checkArchitecture_congr (h : Value.lookup "architecture" after = Value.lookup "architecture" before) :
    checkArchitecture table after = checkArchitecture table before := by
  rw [checkArchitecture, checkArchitecture, h]

theorem policyOf_congr (h : Value.lookup "address_policy" after = Value.lookup "address_policy" before) :
    policyOf table after = policyOf table before := by
  rw [policyOf, policyOf, h]

/-- What keeps empty maps empty may as well change the entries of a section that is read. -/
theorem sectionOf_inMap (request : String) {f : List (Value × Value) → List (Value × Value)} (nil : f [] = []) (v : Value) :
    sectionOf table request (some (table.inMap f v)) = (sectionOf table request (some v)).map f := by
  unfold Collections.inMap
  split
  next part h =>
    have read (part : List (Value × Value)) : sectionOf table request (some (.map part)) = .ok part := by
      cases part <;> rfl
    have given : sectionOf table request (some v) = sectionOf table request (some (.map part)) := by
      simp only [sectionOf, h]
      rfl
    rw [given, read, read]
    rfl
  next other =>
    simp only [sectionOf]
    split
    · rw [Except.map, nil]
    · unfold entriesOf
      split
      next entries h => exact absurd h (other entries)
      next => rfl

/-- What is left of a section is read as what is left of its entries. -/
theorem sectionOf_remainder (request : String) (keys : List OptionalKey) (s : Text) (v : Value) :
    sectionOf table request (some (remainder table keys (.text s) v)) =
      (sectionOf table request (some v)).map (remaining keys (some s)) := by
  by_cases inside : keys.any fun k => k.place == some s
  · have changed : remainder table keys (.text s) v = table.inMap (remaining keys (some s)) v := if_pos inside
    rw [changed]
    exact sectionOf_inMap table request rfl v
  · have unchanged : remainder table keys (.text s) v = v := if_neg inside
    have all (part : List (Value × Value)) : remaining keys (some s) part = part := by
      refine remaining_eq_self fun k mem place => inside ?_
      exact List.any_eq_true.2 ⟨k, mem, by simp [place]⟩
    rw [unchanged]
    cases sectionOf table request (some v) with
    | error e => rfl
    | ok part => exact congrArg Except.ok (all part).symm

/-- Taking out keys of a section, or the section where it is null, is taking out keys of its entries. -/
theorem sectionOf_thinned (request : String) {keys : List OptionalKey} {k : OptionalKey} (place : k.place = none)
    (null : k ∈ keys → Value.lookup k.name before = some .null) :
    sectionOf table request (Value.lookup k.name (thinned table keys before)) =
      (sectionOf table request (Value.lookup k.name before)).map (remaining keys (some k.name)) := by
  have vacated := vacated_remaining k null
  rw [place] at vacated
  rw [lookup_thinned]
  cases vacated with
  | same h =>
    rw [h]
    cases Value.lookup k.name before with
    | none => rfl
    | some v => exact sectionOf_remainder table request keys k.name v
  | removed null h =>
    rw [h, null]
    rfl

end Readers

/-! ### The words -/

/-- The mistake of words that are null. -/
def nullWords : Error := @Error.notSequence Value.null.kind

section Words

variable (table : Collections) {entries : List (Value × Value)}

theorem integersAt_of_null {key : Text} (null : Value.lookup key entries = some .null) :
    integersAt table entries key = .error nullWords := by
  simp only [integersAt, null]
  rfl

theorem bind_ne_error {ε α β : Type} {e : ε} {x : Except ε α} {f : α → Except ε β} (hx : x ≠ .error e)
    (hf : ∀ a, f a ≠ .error e) : x >>= f ≠ .error e := by
  cases x with
  | error e' => simpa [bind, Except.bind] using hx
  | ok a => exact hf a

theorem bind_ne_ok {ε α β : Type} {x : Except ε α} {f : α → Except ε β} {b : β} (hf : ∀ a, f a ≠ .ok b) : x >>= f ≠ .ok b := by
  cases x with
  | error e => nofun
  | ok a => exact hf a

theorem textOf_ne_nullWords (v : Value) : textOf table v ≠ .error nullWords := by
  unfold textOf
  split <;> nofun

theorem integerOf_ne_nullWords (v : Value) : integerOf table v ≠ .error nullWords := by
  unfold integerOf
  split
  next => nofun
  next t =>
    cases readInteger (if isMarked t then .sixteen else .ten) t <;> nofun
  next => exact bind_ne_error (textOf_ne_nullWords table _) nofun

theorem entriesOf_ne_nullWords (request : String) (v : Value) : entriesOf request v ≠ .error nullWords := by
  unfold entriesOf
  split <;> nofun

theorem sectionOf_ne_nullWords (request : String) (v : Option Value) : sectionOf table request v ≠ .error nullWords := by
  cases v with
  | none => nofun
  | some v =>
    simp only [sectionOf]
    split
    · nofun
    · exact entriesOf_ne_nullWords request _

theorem integerAt_ne_nullWords (key : Text) (default : Int) : integerAt table entries key default ≠ .error nullWords := by
  unfold integerAt
  split
  next => nofun
  next v _ => exact integerOf_ne_nullWords table v

theorem namedIntegers_ne_nullWords : namedIntegers table entries ≠ .error nullWords := by
  induction entries with
  | nil => nofun
  | cons e entries ih =>
    refine bind_ne_error (textOf_ne_nullWords table e.1) fun name => ?_
    refine bind_ne_error (integerOf_ne_nullWords table e.2) fun n => ?_
    exact bind_ne_error ih nofun

theorem tableAt_ne_nullWords (key : Text) : tableAt table entries key ≠ .error nullWords :=
  bind_ne_error (sectionOf_ne_nullWords table _ _) fun _ => bind_ne_error (namedIntegers_ne_nullWords table) nofun

theorem checkArchitecture_ne_nullWords : checkArchitecture table entries ≠ .error nullWords := by
  refine bind_ne_error (textOf_ne_nullWords table _) fun name => ?_
  simp only
  split <;> nofun

theorem policyOf_ne_nullWords : policyOf table entries ≠ .error nullWords := by
  refine bind_ne_error (textOf_ne_nullWords table _) fun name => ?_
  simp only
  split <;> nofun

theorem maxStepsOf_ne_nullWords : maxStepsOf table entries ≠ .error nullWords := by
  unfold maxStepsOf
  split
  next => nofun
  next => nofun
  next v _ _ =>
    have given := integerOf_ne_nullWords table v
    cases h : integerOf table v with
    | ok n => nofun
    | error e =>
      rw [h] at given
      simpa [Except.map] using given

theorem initialStateOf_ne_nullWords : initialStateOf table entries ≠ .error nullWords := by
  refine bind_ne_error (sectionOf_ne_nullWords table _ _) fun part => ?_
  refine bind_ne_error (integerAt_ne_nullWords table _ _) fun pc => ?_
  refine bind_ne_error (integerAt_ne_nullWords table _ _) fun sp => ?_
  exact bind_ne_error (tableAt_ne_nullWords table _) nofun

/-- Words that are given, even as null, are what makes a program fail so. -/
theorem programOf_ne_nullWords
    (absent : ∀ part, sectionOf table "get" (Value.lookup "program" entries) = .ok part → Value.lookup "words" part = none) :
    programOf table entries ≠ .error nullWords := by
  cases h : sectionOf table "get" (Value.lookup "program" entries) with
  | error e =>
    have other := sectionOf_ne_nullWords table "get" (Value.lookup "program" entries)
    rw [programOf, h]
    rw [h] at other
    intro same
    cases same
    exact other rfl
  | ok part =>
    rw [programOf_of_section table h]
    refine bind_ne_error (integerAt_ne_nullWords table _ _) fun origin => ?_
    have words : integersAt table part "words" = .ok [] := by
      simp only [integersAt, absent part h]
    rw [words]
    intro failed
    cases failed

/-- A program whose words are null is not read. -/
theorem programOf_ne_ok {part : List (Value × Value)} (h : sectionOf table "get" (Value.lookup "program" entries) = .ok part)
    (null : Value.lookup "words" part = some .null) (p : Program) : programOf table entries ≠ .ok p := by
  rw [programOf_of_section table h, integersAt_of_null table null]
  cases integerAt table part "origin" 0 <;> nofun

end Words

/-! ### Descriptions -/

theorem bind_cases {ε α β : Type} {e : ε} {p : Prop} {x : Except ε α} {f g : α → Except ε β}
    (h : ∀ a, g a = f a ∨ p ∧ f a = .error e) : x >>= g = x >>= f ∨ p ∧ x >>= f = .error e := by
  cases x with
  | error e' => exact Or.inl rfl
  | ok a => exact h a

section Descriptions

variable {d : Data} {keys : List OptionalKey} {entries : List (Value × Value)} (value : d.value = .map entries)

include value

theorem lookup_of_isNull {k : OptionalKey} (place : k.place = none) (h : d.IsNull k) :
    Value.lookup k.name entries = some .null := by
  unfold Data.IsNull at h
  rwa [place, Data.entriesAt, value] at h

/-- The entries that are read of a section are those in its place. -/
theorem entriesAt_of_sectionOf {request : String} {s : Text} {part : List (Value × Value)}
    (h : sectionOf d.table request (Value.lookup s entries) = .ok part) : d.entriesAt (some s) = part := by
  rw [Data.entriesAt, value]
  show (d.table.resolve ((Value.lookup s entries).getD .null)).entries = part
  cases given : Value.lookup s entries with
  | none =>
    rw [given] at h
    exact Except.ok.inj h
  | some v =>
    simp only [given, sectionOf] at h
    split at h
    next empty =>
      rw [Option.getD_some, Value.entries_of_isEmpty empty]
      exact Except.ok.inj h
    next =>
      rw [Option.getD_some]
      cases resolved : d.table.resolve v with
      | map entries =>
        rw [resolved] at h
        exact Except.ok.inj h
      | _ =>
        rw [resolved] at h
        cases h

theorem lookup_part_of_isNull {k : OptionalKey} (null : d.IsNull k) {s : Text} (place : k.place = some s)
    {request : String} {part : List (Value × Value)}
    (h : sectionOf d.table request (Value.lookup s entries) = .ok part) : Value.lookup k.name part = some .null := by
  unfold Data.IsNull at null
  rwa [place, entriesAt_of_sectionOf value h] at null

variable (null : ∀ k ∈ keys, d.IsNull k)

include null

theorem vacated_thinned (k : OptionalKey) (place : k.place = none) (other : ∀ l : OptionalKey, l.place ≠ some k.name) :
    Vacated (Value.lookup k.name entries) (Value.lookup k.name (thinned d.table keys entries)) := by
  rw [lookup_thinned_of_no_section d.table other, ← place]
  exact vacated_remaining k fun mem => lookup_of_isNull value place (null k mem)

theorem sectionOf_without {k : OptionalKey} (place : k.place = none) :
    sectionOf d.table "get" (Value.lookup k.name (thinned d.table keys entries)) =
      (sectionOf d.table "get" (Value.lookup k.name entries)).map (remaining keys (some k.name)) :=
  sectionOf_thinned d.table "get" place fun mem => lookup_of_isNull value place (null k mem)

/-- A key in a section that was read. -/
theorem vacated_part (k : OptionalKey) {s : Text} (place : k.place = some s) {part : List (Value × Value)}
    (h : sectionOf d.table "get" (Value.lookup s entries) = .ok part) :
    Vacated (Value.lookup k.name part) (Value.lookup k.name (remaining keys (some s) part)) := by
  rw [← place]
  exact vacated_remaining k fun mem => lookup_part_of_isNull value (null k mem) place h

theorem initialStateOf_thinned : initialStateOf d.table (thinned d.table keys entries) = initialStateOf d.table entries := by
  have left : sectionOf d.table "get" (Value.lookup "initial_state" (thinned d.table keys entries)) =
      (sectionOf d.table "get" (Value.lookup "initial_state" entries)).map (remaining keys (some "initial_state")) :=
    sectionOf_without value null (k := .initialState) rfl
  cases h : sectionOf d.table "get" (Value.lookup "initial_state" entries) with
  | error e =>
    rw [h] at left
    rw [initialStateOf, initialStateOf, left, h]
    rfl
  | ok part =>
    rw [h] at left
    have pc : Value.lookup "pc" (remaining keys (some "initial_state") part) = Value.lookup "pc" part :=
      lookup_remaining_of_other fun k => by cases k <;> decide
    have sp : Value.lookup "sp" (remaining keys (some "initial_state") part) = Value.lookup "sp" part :=
      lookup_remaining_of_other fun k => by cases k <;> decide
    have registers : tableAt d.table (remaining keys (some "initial_state") part) "registers" =
        tableAt d.table part "registers" :=
      tableAt_vacated d.table (vacated_part value null .registers rfl h)
    rw [initialStateOf_of_section d.table left, initialStateOf_of_section d.table h, integerAt_congr d.table pc,
      integerAt_congr d.table sp, registers]

/-- The program is read as before, unless its words were null, are taken out, and were what the reading failed on. -/
theorem programOf_thinned : programOf d.table (thinned d.table keys entries) = programOf d.table entries ∨
    .words ∈ keys ∧ programOf d.table entries = .error nullWords := by
  have left : sectionOf d.table "get" (Value.lookup "program" (thinned d.table keys entries)) =
      (sectionOf d.table "get" (Value.lookup "program" entries)).map (remaining keys (some "program")) :=
    sectionOf_without value null (k := .program) rfl
  cases h : sectionOf d.table "get" (Value.lookup "program" entries) with
  | error e =>
    rw [h] at left
    left
    rw [programOf, programOf, left, h]
    rfl
  | ok part =>
    rw [h] at left
    have origin : Value.lookup "origin" (remaining keys (some "program") part) = Value.lookup "origin" part :=
      lookup_remaining_of_other fun k => by cases k <;> decide
    have file : (Value.lookup "file" (remaining keys (some "program") part)).getD .null =
        (Value.lookup "file" part).getD .null :=
      getD_vacated (vacated_part value null .file rfl h)
    rw [programOf_of_section d.table left, programOf_of_section d.table h, integerAt_congr d.table origin, file]
    by_cases mem : .words ∈ keys
    · have words : Value.lookup "words" part = some .null := lookup_part_of_isNull value (null .words mem) rfl h
      rw [integersAt_of_null d.table words]
      cases integerAt d.table part "origin" 0 with
      | error e => exact Or.inl rfl
      | ok origin => exact Or.inr ⟨mem, rfl⟩
    · have words : Value.lookup "words" (remaining keys (some "program") part) = Value.lookup "words" part := by
        rw [lookup_remaining, if_neg]
        exact fun occurs => mem (OptionalKey.occurs_self.1 occurs)
      left
      simp only [integersAt, words]

/-- So is the description. -/
theorem ofData_without_cases : ofData (d.without keys) = ofData d ∨ .words ∈ keys ∧ ofData d = .error nullWords := by
  have architecture : Value.lookup "architecture" (thinned d.table keys entries) = Value.lookup "architecture" entries :=
    lookup_thinned_of_other d.table (fun k => by cases k <;> decide) fun k => by cases k <;> decide
  have policy : Value.lookup "address_policy" (thinned d.table keys entries) = Value.lookup "address_policy" entries :=
    lookup_thinned_of_other d.table (fun k => by cases k <;> decide) fun k => by cases k <;> decide
  have maxSteps := maxStepsOf_vacated d.table (vacated_thinned value null .maxSteps rfl fun k => by cases k <;> decide)
  have symbols : tableAt d.table (thinned d.table keys entries) "symbols" = tableAt d.table entries "symbols" :=
    tableAt_vacated d.table (vacated_thinned value null .symbols rfl fun k => by cases k <;> decide)
  have state := initialStateOf_thinned value null
  have table : (d.without keys).table = d.table := rfl
  rw [ofData_of_map (d.value_without value), ofData_of_map value, table, checkArchitecture_congr d.table architecture,
    policyOf_congr d.table policy, maxSteps, state, symbols]
  rcases programOf_thinned value null with same | ⟨mem, failed⟩
  · rw [same]
    exact Or.inl rfl
  · -- the reading fails at the program, or it has failed before
    rw [failed]
    refine bind_cases fun _ => bind_cases fun _ => bind_cases fun _ => bind_cases fun _ => ?_
    exact Or.inr ⟨mem, rfl⟩

/-- Words that are taken out are not what the reading fails on. -/
theorem programOf_thinned_ne_nullWords (mem : .words ∈ keys) :
    programOf d.table (thinned d.table keys entries) ≠ .error nullWords := by
  refine programOf_ne_nullWords d.table fun left h => ?_
  have given : sectionOf d.table "get" (Value.lookup "program" (thinned d.table keys entries)) =
      (sectionOf d.table "get" (Value.lookup "program" entries)).map (remaining keys (some "program")) :=
    sectionOf_without value null (k := .program) rfl
  rw [h] at given
  cases part : sectionOf d.table "get" (Value.lookup "program" entries) with
  | error e =>
    rw [part] at given
    cases given
  | ok part' =>
    rw [part] at given
    cases given
    rw [lookup_remaining]
    exact if_pos (OptionalKey.occurs_self.2 mem)

end Descriptions

variable {d : Data} {keys : List OptionalKey}

theorem ofData_of_no_map (value : ∀ entries, d.value ≠ .map entries) : ofData d = .error (@Error.notMap d.value.kind "get") := by
  rw [ofData]
  cases h : d.value with
  | map entries => exact absurd h (value entries)
  | _ => rfl

/-- A description whose words are null is not read. -/
theorem ofData_ne_ok_of_isNull (null : d.IsNull .words) (c : Config) : ofData d ≠ .ok c := by
  by_cases map : ∃ entries, d.value = .map entries
  · obtain ⟨entries, value⟩ := map
    rw [ofData_of_map value]
    have failed (p : Program) : programOf d.table entries ≠ .ok p := by
      cases h : sectionOf d.table "get" (Value.lookup "program" entries) with
      | error e =>
        rw [programOf, h]
        intro read
        cases read
      | ok part => exact programOf_ne_ok d.table h (lookup_part_of_isNull value null rfl h) p
    refine bind_ne_ok fun _ => bind_ne_ok fun policy => bind_ne_ok fun maxSteps => bind_ne_ok fun state => ?_
    cases h : programOf d.table entries with
    | error e =>
      intro read
      cases read
    | ok p => exact absurd h (failed p)
  · rw [ofData_of_no_map fun entries h => map ⟨entries, h⟩]
    intro read
    cases read

/-- **Null keys that are taken out are not missed, except for the words.** Taking out any of them gives another result exactly
if the words are among them and were what the reading failed on. As long as the words are null, the data is no description. -/
theorem ofData_without_eq_iff (null : ∀ k ∈ keys, d.IsNull k) :
    (ofData (d.without keys) = ofData d ↔ (.words ∈ keys → ofData d ≠ .error nullWords)) ∧
      (d.IsNull .words → ∀ c, ofData d ≠ .ok c) := by
  refine ⟨?_, ofData_ne_ok_of_isNull⟩
  by_cases map : ∃ entries, d.value = .map entries
  · obtain ⟨entries, value⟩ := map
    constructor
    · intro same mem failed
      have left : ofData (d.without keys) ≠ .error nullWords := by
        have table : (d.without keys).table = d.table := rfl
        rw [ofData_of_map (d.value_without value), table]
        refine bind_ne_error (checkArchitecture_ne_nullWords d.table) fun _ => ?_
        refine bind_ne_error (policyOf_ne_nullWords d.table) fun policy => ?_
        refine bind_ne_error (maxStepsOf_ne_nullWords d.table) fun maxSteps => ?_
        refine bind_ne_error (initialStateOf_ne_nullWords d.table) fun state => ?_
        refine bind_ne_error (programOf_thinned_ne_nullWords value null mem) fun program => ?_
        exact bind_ne_error (tableAt_ne_nullWords d.table _) nofun
      exact left (same.trans failed)
    · intro reached
      rcases ofData_without_cases value null with same | ⟨mem, failed⟩
      · exact same
      · exact absurd failed (reached mem)
  · have value (entries : List (Value × Value)) : d.value ≠ .map entries := fun h => map ⟨entries, h⟩
    rw [d.without_of_no_map value, ofData_of_no_map value]
    exact iff_of_true rfl nofun

/-- With the words, more than the other null keys is taken out. -/
theorem ofData_without_eq_iff_words :
    let d : Data :=
      { root := .map
          [(.text "max_steps", .null),
            (.text "initial_state", .map [(.text "registers", .null), (.text "pc", .text "0x10")]),
            (.text "program", .map [(.text "file", .null), (.text "words", .null)]), (.text "symbols", .null)] }
    let others : List OptionalKey := [.maxSteps, .registers, .file, .symbols]
    (∀ k ∈ .words :: others, d.IsNull k) ∧ ofData (d.without others) = ofData d ∧
      ofData (d.without (.words :: others)) ≠ ofData d ∧ ∀ c, ofData d ≠ .ok c := by
  intro d others
  have null : ∀ k ∈ .words :: others, d.IsNull k := by
    intro k mem
    simp only [others, List.mem_cons, List.not_mem_nil, or_false] at mem
    rcases mem with rfl | rfl | rfl | rfl | rfl <;> rfl
  have null' : ∀ k ∈ others, d.IsNull k := fun k mem => null k (List.mem_cons_of_mem _ mem)
  have failed : ofData d = .error nullWords := rfl
  obtain ⟨same, unread⟩ := ofData_without_eq_iff null'
  obtain ⟨changed, -⟩ := ofData_without_eq_iff null
  exact ⟨null, same.2 fun mem => absurd mem (by decide), fun h => changed.1 h (List.mem_cons_self ..) failed,
    unread (null .words (List.mem_cons_self ..))⟩

/-- A program whose words are null is a mistake, and one without words is a description. -/
theorem ofData_null_words :
    let d : Data := { root := .map [(.text "program", .map [(.text "words", .null)])] }
    d.IsNull .words ∧ ofData d = .error nullWords ∧ ofData (d.without [.words]) = .ok {} := by
  intro d
  exact ⟨rfl, rfl, rfl⟩

end Config

end Dcpu16
