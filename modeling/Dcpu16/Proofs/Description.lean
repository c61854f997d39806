import Dcpu16.Config.Build
import Dcpu16.Proofs.BoundedRun

/-!
Running the machine of a description. A run starts by setting the stack pointer to zero and the program counter to the
start of the description, so what the description said of these two before is lost, whether as a pointer of its own or
among the named registers. A register that a name sets is either one of the two, and then the start of the run absorbs
it, or another one, and then it does not matter whether it is set before or after (`started_setNamed`). So the run
depends only on the names that are left when those of the two are dropped (`run_of_description`).
-/

namespace Dcpu16

/-! ### Names of the pointers -/

namespace Register

/-- Whether a name is that of the program counter or of the stack pointer. -/
def isPointerName (name : Text) : Bool := name.upper = Text.ofString PC.name || name.upper = Text.ofString SP.name

theorem named?_eq_some {text : Text} {r : Register} (h : named? text = some r) : text = Text.ofString r.name := by
  have found := List.find?_some h
  exact (beq_iff_eq.1 found).symm

theorem ofName_eq_ok {name : Text} {r : Register} (h : ofName name = .ok r) : name.upper = Text.ofString r.name := by
  rw [ofName] at h
  split at h
  next q hq =>
    cases h
    exact named?_eq_some hq
  next => cases h

theorem ofName_of_isPointerName {name : Text} (h : isPointerName name) : ofName name = .ok .PC ∨ ofName name = .ok .SP := by
  rw [isPointerName, Bool.or_eq_true, decide_eq_true_iff, decide_eq_true_iff] at h
  rcases h with h | h
  · left
    rw [ofName, h]
    rfl
  · right
    rw [ofName, h]
    rfl

end Register

/-! ### Registers set by name -/

namespace Machine

/-- Sets the register with a name, if there is one. -/
def setNamed (m : Machine) (name : Text) (value : Int) : Machine :=
  match Register.ofName name with
  | .ok r => m.write (.register r) value
  | .error _ => m

/-- Sets registers by their names, in order. -/
def setAllNamed (m : Machine) (entries : List (Text × Int)) : Machine :=
  entries.foldl (fun m (name, value) => m.setNamed name value) m

variable (m : Machine) (start : Int)

theorem started_write_pointer {r : Register} (h : r = .PC ∨ r = .SP) (value : Int) :
    (m.write (.register r) value).started (some start) = m.started (some start) := by
  rcases h with rfl | rfl <;> rfl

theorem started_write_other {r : Register} (pc : r ≠ .PC) (sp : r ≠ .SP) (value : Int) :
    (m.write (.register r) value).started (some start) = (m.started (some start)).write (.register r) value := by
  cases r <;> first | rfl | contradiction

/-- The start of a run absorbs a register that is set by name, or can be made before it is set. -/
theorem started_setNamed (name : Text) (value : Int) :
    (m.setNamed name value).started (some start) =
      if Register.isPointerName name then m.started (some start) else (m.started (some start)).setNamed name value := by
  split
  next pointer =>
    rcases Register.ofName_of_isPointerName pointer with h | h
    · rw [setNamed, h]
      exact m.started_write_pointer start (Or.inl rfl) value
    · rw [setNamed, h]
      exact m.started_write_pointer start (Or.inr rfl) value
  next other =>
    rw [setNamed, setNamed]
    split
    next r h =>
      have capitals := Register.ofName_eq_ok h
      refine m.started_write_other start ?_ ?_ value
      · rintro rfl
        exact other (by simp [Register.isPointerName, capitals])
      · rintro rfl
        exact other (by simp [Register.isPointerName, capitals])
    next => rfl

/-- Of registers that are set by name before a run starts, those that are no pointers count. -/
theorem started_setAllNamed (entries : List (Text × Int)) :
    (m.setAllNamed entries).started (some start) =
      (m.started (some start)).setAllNamed (entries.filter fun e => !Register.isPointerName e.1) := by
  -- from the front, as the entries are set: a name that comes later overrides, on both sides alike
  induction entries generalizing m with
  | nil => rfl
  | cons e entries ih =>
    obtain ⟨name, value⟩ := e
    show ((m.setNamed name value).setAllNamed entries).started (some start) = _
    rw [ih, started_setNamed]
    by_cases pointer : Register.isPointerName name
    · rw [if_pos pointer, List.filter_cons_of_neg (by simp [pointer])]
    · rw [if_neg pointer, List.filter_cons_of_pos (by simp [pointer])]
      rfl

theorem run_eq_of_started {σ : Type} {m n : Machine} {start : Option Int} (h : n.started start = m.started start)
    (budget : Option Int) (observe : Observer σ) (memo : σ) (patience : Nat) :
    n.run start budget observe memo patience = m.run start budget observe memo patience := by
  rw [run, run, launch_eq, launch_eq, h]

end Machine

/-! ### Building -/

theorem Built.machine_setRegister (b : Built) (name : Text) (value : Int) :
    (b.setRegister name value).machine = b.machine.setNamed name value := by
  rw [setRegister, Machine.setNamed]
  cases Register.ofName name <;> rfl

theorem Built.machine_foldl_setRegister (b : Built) (entries : List (Text × Int)) :
    (entries.foldl (fun b (name, value) => b.setRegister name value) b).machine = b.machine.setAllNamed entries :=
  (List.foldl_hom Built.machine fun b e => (b.machine_setRegister e.1 e.2).symm).symm

namespace Config

variable {c d : Config}

/-- The machine of a description with the pairs of its image. -/
def assembled (c : Config) (image : List (Int × Int)) : Built :=
  c.initialState.registers.entries.foldl (fun b (name, value) => b.setRegister name value)
    ⟨((c.loaded image).reset c.initialState.pc).write (.register .SP) c.initialState.sp, []⟩

theorem build_eq (c : Config) (folder : Folder) : c.build folder = (c.imagePairs folder).map c.assembled := by
  rw [build]
  cases c.imagePairs folder <;> rfl

/-- The machine on which a run starts. -/
theorem started_assembled (c : Config) (image : List (Int × Int)) :
    (c.assembled image).machine.started (some c.initialState.pc) =
      (((c.loaded image).reset c.initialState.pc).started (some c.initialState.pc)).setAllNamed
        (c.initialState.registers.entries.filter fun e => !Register.isPointerName e.1) := by
  rw [assembled, Built.machine_foldl_setRegister, Machine.started_setAllNamed,
    Machine.started_write_pointer _ _ (Or.inr rfl)]

/-! ### Two descriptions -/

/-- Two descriptions that differ only in the stack pointer and in registers that have the name of a pointer. -/
structure SameButPointers (c d : Config) : Prop where
  policy : d.policy = c.policy
  maxSteps : d.maxSteps = c.maxSteps
  program : d.program = c.program
  symbols : d.symbols = c.symbols
  pc : d.initialState.pc = c.initialState.pc
  registers : (d.initialState.registers.entries.filter fun e => !Register.isPointerName e.1) =
    c.initialState.registers.entries.filter fun e => !Register.isPointerName e.1

namespace SameButPointers

variable (h : SameButPointers c d)

include h

theorem imagePairs_eq (folder : Folder) : d.imagePairs folder = c.imagePairs folder := by
  rw [imagePairs, imagePairs, h.program]

theorem runBuilt_eq (image : List (Int × Int)) (patience : Nat) :
    d.runBuilt (d.assembled image) patience = c.runBuilt (c.assembled image) patience := by
  have loaded : d.loaded image = c.loaded image := by
    rw [Config.loaded, Config.loaded, h.policy, h.program, h.symbols]
  have started : (d.assembled image).machine.started (some c.initialState.pc) =
      (c.assembled image).machine.started (some c.initialState.pc) := by
    have ofD := d.started_assembled image
    rw [h.pc, h.registers, loaded] at ofD
    rw [ofD, c.started_assembled]
  rw [runBuilt, runBuilt, h.pc, h.maxSteps, Machine.run_eq_of_started started]

end SameButPointers

/-- **What the run of a description depends on.** The run of a description with a budget, if the machine of the
description can be built, makes consecutive steps on this machine, with the stack pointer set to zero, the program
counter set to the start, and everything else as it was built; it reports and leaves what these steps do. Descriptions
that differ only in the stack pointer and in registers that have the name of a pointer, in any case of the letters, have
the same run, or the same error. -/
theorem run_of_description (c : Config) (folder : Folder) (patience : Nat) :
    (∀ n b, c.maxSteps = some n → c.build folder = .ok b →
      let begun : Machine :=
        { b.machine with
          space.registers.sp := 0
          space.registers.pc := Word.ofInt c.initialState.pc }
      let t := begun.trace n.toNat
      c.buildAndRun folder patience = .ok (some ⟨⟨t.ending, t.snapshots.length, t.pc⟩, t.machine.stop, ()⟩)) ∧
    ∀ d, SameButPointers c d → d.buildAndRun folder patience = c.buildAndRun folder patience := by
  refine ⟨fun n b budget built => ?_, fun d same => ?_⟩
  · have run := b.machine.run_idle (some c.initialState.pc) n () patience
    rw [Trace.toRun, Nat.zero_add] at run
    rw [buildAndRun, built, Except.map, runBuilt, budget, run]
    rfl
  · rw [buildAndRun, buildAndRun, build_eq, build_eq, same.imagePairs_eq]
    cases c.imagePairs folder with
    | error e => rfl
    | ok image => exact congrArg Except.ok (same.runBuilt_eq image patience)

/-- Two descriptions with different pointers, under several names, of a program that pushes register `A` twice. -/
theorem run_of_description_renamed :
    let program : Program := { origin := 0x10, words := [0x01A1, 0x01A1] }
    let registers (names : List (Text × Int)) (h : (names.map Prod.fst).Nodup) : Table Int := ⟨names, h⟩
    let c : Config :=
      { maxSteps := some 2
        program
        initialState :=
          { pc := 0x10, sp := 7,
            registers := registers [(.ofString "Pc", 9), (.ofString "a", 5), (.ofString "SP", 3)] (by decide) } }
    let d : Config :=
      { maxSteps := some 2
        program
        initialState :=
          { pc := 0x10, registers := registers [(.ofString "a", 5), (.ofString "pc", 1)] (by decide) } }
    SameButPointers c d ∧ (c.assembled []).machine.space.registers ≠ (d.assembled []).machine.space.registers ∧
      c.build {} = .ok (c.assembled []) ∧ d.buildAndRun {} 0 = c.buildAndRun {} 0 ∧
      ∃ r : Run Unit, c.buildAndRun {} 0 = .ok (some r) ∧ r.result = ⟨.stepLimit, 2, 0x12⟩ ∧
        r.machine.space.memory = [(0x10, 0x01A1), (0x11, 0x01A1), (0xFFFE, 5), (0xFFFF, 5)] := by
  intro program registers c d
  have same : SameButPointers c d := ⟨rfl, rfl, rfl, rfl, rfl, by decide⟩
  have built : c.build {} = .ok (c.assembled []) := by
    rw [build_eq]
    rfl
  obtain ⟨runs, others⟩ := c.run_of_description {} 0
  exact ⟨same, by decide, built, others d same, _, runs 2 _ rfl built, by decide, by decide⟩

end Config

end Dcpu16
