import Dcpu16.Proofs.Journal

/-!
What a snapshot shows of an instruction against what the step read. The instruction word shown is always the word
fetched. The trailing words shown are looked up modulo `0x10000`, while resolving an operand reads the word after
the program counter wherever the policy puts it. So they are the words read unless the instruction runs past the
last address and the cells `0x10000` and `0` differ (`step_shows`), which they cannot do under the wrap policy.
-/

namespace Dcpu16

/-! ### Words read -/

/-- The word that an access put on record. -/
def Access.data : Access → Word
  | read _ data => data
  | write _ data _ => data

namespace Space

variable (s : Space)

/-- The program words that resolving a mode reads, which are the first of its reads. -/
def wordsTaken (m : Mode) : List Word :=
  (((s.resolve m).2.log.drop s.log.length).take m.extraWords).map Access.data

/-- The program words that resolving the operands of an instruction reads. A call has only operand B. -/
def programWords (i : Instruction) : List Word :=
  match i.action with
  | .call => s.wordsTaken i.modeB
  | _ => s.wordsTaken i.modeA ++ (s.resolve i.modeA).2.wordsTaken i.modeB

/-- The space after the operands of an instruction were resolved. A call has only operand B. -/
def afterOperands (i : Instruction) : Space :=
  match i.action with
  | .call => (s.resolve i.modeB).2
  | _ => (s.operands i).2

theorem wordsTaken_eq (m : Mode) :
    s.wordsTaken m = if m.takesWord then [s.cell (s.registers.pc.address + 1)] else [] := by
  rw [wordsTaken, log_resolve, List.drop_left, take_readsFor]
  cases m.takesWord <;> rfl

theorem cell_resolve (m : Mode) (address : Int) : (s.resolve m).2.cell address = s.cell address := by
  rw [cell_eq, cell_eq, cells_resolve, policy_resolve]

/-- A call can be treated like any other instruction, since its selector stands for a mode that takes no word. -/
theorem programWords_eq_append (i : Instruction) :
    s.programWords i = s.wordsTaken i.modeA ++ (s.resolve i.modeA).2.wordsTaken i.modeB := by
  unfold programWords
  split
  next hi =>
    rw [Instruction.modeA_of_call hi, wordsTaken_eq s (.direct .B)]
    rfl
  next => rfl

theorem programWords_eq (i : Instruction) :
    s.programWords i =
      (if i.modeA.takesWord then [s.cell (s.registers.pc.address + 1)] else []) ++
      (if i.modeB.takesWord then [s.cell ((s.registers.pc.address + i.modeA.extraWords) % 0x10000 + 1)] else []) := by
  have pc : (s.resolve i.modeA).2.registers.pc.address = (s.registers.pc.address + i.modeA.extraWords) % 0x10000 := by
    rw [registers_resolve]
    exact Word.address_add_ofNat _ _
  rw [programWords_eq_append, wordsTaken_eq, wordsTaken_eq, cell_resolve, pc]

theorem cell_succ_eq_iff (w : Word) :
    s.cell ((w.address + 1) % 0x10000) = s.cell (w.address + 1) ↔
      w.address + 1 < 0x10000 ∨ s.cell 0x10000 = s.cell 0 := by
  have hw := w.address_lt
  have := w.address_nonneg
  by_cases h : w.address + 1 < 0x10000
  · rw [Int.emod_eq_of_lt (by omega) h]
    simp [h]
  · have he : w.address = 0xFFFF := by omega
    rw [he]
    simp [eq_comm]

theorem optional_words_eq_iff {p q : Bool} {v v' w w' : Word} :
    (if p then [v] else []) ++ (if q then [w] else []) = (if p then [v'] else []) ++ (if q then [w'] else []) ↔
      (p → v = v') ∧ (q → w = w') := by
  cases p <;> cases q <;> simp

/-- The trailing words that a listing shows at the program counter are those that resolving the operands reads, unless
the instruction runs past the last address and the two cells that may be meant there differ. -/
theorem trailing_eq_programWords_iff (i : Instruction) (hi : i = .ofWord (s.cell s.registers.pc.address)) :
    (s.operationAt s.registers.pc.address).trailing = s.programWords i ↔
      s.registers.pc.address + i.size ≤ 0x10000 ∨ s.cell 0x10000 = s.cell 0 := by
  have hpc := s.registers.pc.address_lt
  have hpc' := s.registers.pc.address_nonneg
  -- the word that the program counter is on when operand B is resolved
  have hq := Word.address_add_ofNat s.registers.pc i.modeA.extraWords
  have first := s.cell_succ_eq_iff s.registers.pc
  have second := s.cell_succ_eq_iff (s.registers.pc + BitVec.ofNat 16 i.modeA.extraWords)
  rw [hq, Int.emod_add_emod] at second
  have shown : (s.operationAt s.registers.pc.address).trailing =
      (if i.modeA.takesWord then [s.cell ((s.registers.pc.address + 1) % 0x10000)] else []) ++
      (if i.modeB.takesWord then [s.cell ((s.registers.pc.address + i.modeA.extraWords + 1) % 0x10000)] else []) := by
    rw [hi, Int.add_right_comm, operationAt]
    simp only [following, Int.natCast_zero, Int.add_zero]
  rw [shown, programWords_eq, optional_words_eq_iff, first, second]
  rw [Instruction.size, Mode.extraWords, Mode.extraWords]
  by_cases hc : s.cell 0x10000 = s.cell 0
  · simp [hc]
  · simp only [hc, or_false]
    cases i.modeA.takesWord <;> cases i.modeB.takesWord <;> simp <;> omega

/-! ### The accesses of the operands -/

/-- An instruction begins with resolving its operands. -/
theorem prefix_log_perform {i : Instruction} (hi : i.action ≠ .undefined) (word : Int) :
    (s.afterOperands i).log <+: (s.perform i word).1.log := by
  have deliver (w : Word) (t : Space) : t.log <+: (t.deliver w (s.operands i).1.a.location).log :=
    (Routine.deliver w fun _ h => Routine.addressable_of_resolve h).prefix_log t
  cases h : i.action with
  | set =>
    simp only [afterOperands, perform, h]
    split
    · exact deliver _ _
    · exact (deliver _ _).trans ((Routine.advance 1).prefix_log _)
  | compute op =>
    simp only [afterOperands, perform, h]
    split
    · exact List.prefix_rfl
    · exact (((Routine.setOverflow _).prefix_log _).trans (deliver _ _)).trans ((Routine.advance 1).prefix_log _)
  | test t =>
    simp only [afterOperands, perform, h]
    split
    · exact (Routine.advance 1).prefix_log _
    · exact Routine.skip.prefix_log _
  | call =>
    simp only [afterOperands, perform, h]
    exact (Routine.pushValue _).prefix_log _
  | undefined => exact absurd h hi

end Space

/-! ### Snapshots -/

/-- **What a snapshot shows is what was executed, except past the end of memory.** Let a step complete on a defined
instruction, fetched as `w`. The snapshot shows `w`, its accesses begin with those of the fetch and the operands,
and the trailing words it shows are the program words that resolving the operands read exactly when the instruction
ends by the last address or the cells `0x10000` and `0` hold the same word, so always under the wrap policy. -/
theorem Machine.step_shows (m : Machine) {shown : Snapshot} (completes : m.step.2 = .ok shown)
    (defined : (Instruction.ofWord m.space.clearLog.fetch.1).action ≠ .undefined) :
    let w := m.space.clearLog.fetch.1
    let s := m.space.clearLog.fetch.2
    let i := Instruction.ofWord w
    shown.operation.opcodeHex = wordStyle.text w.address ∧
    (s.afterOperands i).log <+: shown.activity ∧
    (shown.operation.trailing = s.programWords i ↔
      m.space.registers.pc.address + i.size ≤ 0x10000 ∨ m.space.cell 0x10000 = m.space.cell 0) ∧
    (m.space.policy = .wrap → shown.operation.trailing = s.programWords i) := by
  intro w s i
  obtain ⟨-, rfl⟩ := m.step_eq_ok_iff.1 completes
  have exact_words : m.snapshot.operation.trailing = s.programWords i ↔ _ := s.trailing_eq_programWords_iff i rfl
  refine ⟨rfl, ?_, exact_words, fun wrap => exact_words.2 (Or.inr ?_)⟩
  · have executed : m.turned = (s.perform i w.address).1 := by
      show (s.perform (.decode w.address) w.address).1 = _
      rw [Instruction.decode, Word.ofInt_address]
    show _ <+: m.turned.log
    rw [executed]
    exact s.prefix_log_perform defined w.address
  · show m.space.cell 0x10000 = m.space.cell 0
    rw [Space.cell_eq, Space.cell_eq, wrap]
    rfl

/-- An instruction of three words that ends at the last address shows the two words it read. -/
theorem Machine.step_shows_up_to_end :
    let m : Machine := { space := Space.loadWords { registers := { pc := 0xFFFD } } [0x7DE1, 0x2000, 0x1234] 0xFFFD }
    m.step.2 = .ok m.snapshot ∧ (Instruction.ofWord m.space.clearLog.fetch.1).action ≠ .undefined ∧
      m.snapshot.operation.trailing = m.space.clearLog.fetch.2.programWords (.ofWord m.space.clearLog.fetch.1) := by
  intro m
  have completes : m.step.2 = .ok m.snapshot := m.step_eq_ok_iff.2 ⟨by decide, rfl⟩
  have defined : (Instruction.ofWord m.space.clearLog.fetch.1).action ≠ .undefined := by decide
  obtain ⟨-, -, words, -⟩ := m.step_shows completes defined
  exact ⟨completes, defined, words.2 (Or.inl (by decide))⟩

/-- Past the last address of a sparse memory the two part: a transfer of the next word, at `0xFFFF`, shows the word
in cell `0` and moves the word in cell `0x10000`. -/
theorem Machine.trailing_ne_programWords_past_end :
    let m : Machine := { space := Space.loadPairs { registers := { pc := 0xFFFF } } [(0xFFFF, 0x7C01), (0, 0x1234)] }
    m.step.2 = .ok m.snapshot ∧ (Instruction.ofWord m.space.clearLog.fetch.1).action ≠ .undefined ∧
      m.snapshot.operation.trailing = [0x1234] ∧
      m.space.clearLog.fetch.2.programWords (.ofWord m.space.clearLog.fetch.1) = [0] := by
  intro m
  exact ⟨m.step_eq_ok_iff.2 ⟨by decide, rfl⟩, by decide, by decide, by decide⟩

end Dcpu16
