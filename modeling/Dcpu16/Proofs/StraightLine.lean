import Dcpu16.Proofs.Journal
import Dcpu16.Proofs.Sweep

/-!
What a listing says of execution. A step goes straight on when its instruction is no call, no test that fails and puts
nothing into the program counter; the next one then begins where a listing has its next line (`address_turned`). A cell
that no access writes keeps its word (`Cells.word_replay`), and an instruction is shown by nothing but its words
(`operationAt_congr_words`). So a run that goes straight on and writes none of the words of the listing made before it
follows this listing, line by line (`trace_follows_listing`).
-/

namespace Dcpu16

/-! ### Cells that are not written -/

/-- The address of the cell that an access writes. -/
def Access.written? : Access → Option Int
  | read _ _ => none
  | write address _ _ => some address

theorem Cells.word_replay {cells after : Cells} {es : List Access} (h : cells.replay es = some after) {address : Int}
    (unwritten : ∀ e ∈ es, e.written? ≠ some address) : after.word address = cells.word address := by
  induction es generalizing cells with
  | nil =>
    cases h
    rfl
  | cons e es ih =>
    have later : ∀ e ∈ es, e.written? ≠ some address := fun f hf => unwritten f (List.mem_cons_of_mem _ hf)
    cases e with
    | read a data =>
      rw [replay] at h
      split at h
      · exact ih h later
      · cases h
    | write a data previous =>
      have other : address ≠ a := fun he => unwritten _ (List.mem_cons_self ..) (congrArg some he.symm)
      rw [replay] at h
      split at h
      · rw [ih h later, word_insert, if_neg other]
      · cases h

/-- Addresses modulo `0x10000` are the same under both policies. -/
theorem Policy.normalize_emod (p : Policy) (address : Int) : p.normalize (address % 0x10000) = address % 0x10000 := by
  cases p with
  | sparse => rfl
  | wrap => exact Int.emod_emod ..

theorem Trail.cell_eq {s t : Space} {es : List Access} (trail : Trail s t es) {address : Int}
    (unwritten : ∀ e ∈ es, e.written? ≠ some (address % 0x10000)) :
    t.cell (address % 0x10000) = s.cell (address % 0x10000) := by
  rw [Space.cell_eq, Space.cell_eq, trail.policy, Policy.normalize_emod]
  exact Cells.word_replay trail.cells unwritten

/-! ### Lines that are not written -/

/-- A program word counts only for a mode that takes one. -/
theorem Mode.text_congr {m : Mode} {v w : Int} (h : m.takesWord → v = w) : m.text v = m.text w := by
  cases m with
  | offset r => rw [h rfl]
  | absolute => rw [h rfl]
  | immediate => rw [h rfl]
  | _ => rfl

theorem Mode.extraWords_of_takesWord {m : Mode} (h : m.takesWord) : m.extraWords = 1 := by
  rw [extraWords, h]
  rfl

namespace Space

variable {s t : Space} {start : Int}

/-- An instruction is shown alike where its words are the same. -/
theorem operationAt_congr_words (nonneg : 0 ≤ start) (lt : start < 0x10000)
    (h : ∀ k : Nat, k < (s.operationAt start).length → t.cell ((start + k) % 0x10000) = s.cell ((start + k) % 0x10000)) :
    t.operationAt start = s.operationAt start := by
  have first : t.cell start = s.cell start := by
    have h0 := h 0 (by rw [Operation.length]; omega)
    rwa [Int.natCast_zero, Int.add_zero, Int.emod_eq_of_lt nonneg lt] at h0
  have next (distance : Nat) (inside : 1 + distance < (s.operationAt start).length) :
      t.following start distance = s.following start distance := by
    have hk := h (1 + distance) inside
    rwa [show start + ((1 + distance : Nat) : Int) = start + 1 + distance by omega] at hk
  rw [length_operationAt, Instruction.size] at next
  have wordA (taken : (Instruction.ofWord (s.cell start)).modeA.takesWord) : t.following start 0 = s.following start 0 :=
    next 0 (by rw [Mode.extraWords_of_takesWord taken]; omega)
  have wordB (taken : (Instruction.ofWord (s.cell start)).modeB.takesWord) :
      t.following start (Instruction.ofWord (s.cell start)).modeA.extraWords =
        s.following start (Instruction.ofWord (s.cell start)).modeA.extraWords :=
    next _ (by rw [Mode.extraWords_of_takesWord taken]; omega)
  have textA := Mode.text_congr fun taken => congrArg Word.address (wordA taken)
  have textB := Mode.text_congr fun taken => congrArg Word.address (wordB taken)
  have trailing {taken : Bool} {v w : Word} (h : taken → v = w) :
      (if taken then [v] else []) = if taken then [w] else [] := by
    cases taken with
    | false => rfl
    | true => rw [h rfl]
  simp only [operationAt, first, textA, textB, trailing wordA, trailing wordB]

end Space

/-! ### Steps that go straight on -/

namespace Machine

variable (m : Machine)

/-- The instruction that the next step executes. -/
def instruction : Instruction := .ofWord m.space.clearLog.fetch.1

/-- Whether the next step goes straight on: its instruction is no call, no test that fails, and no transfer or computation
into the program counter. -/
def straight : Bool :=
  let operands := (m.space.clearLog.fetch.2.operands m.instruction).1
  match m.instruction.action with
  | .set | .compute _ => m.instruction.a ≠ 0x1C
  | .test t => t.holds operands.a.value operands.b.value
  | .call => false
  | .undefined => true

variable {m}

theorem execute_eq : m.space.clearLog.fetch.2.execute m.space.clearLog.fetch.1.address =
    m.space.clearLog.fetch.2.perform m.instruction m.space.clearLog.fetch.1.address := by
  rw [Space.execute, Instruction.decode, Word.ofInt_address, instruction]

/-- A step that goes straight on ends on the word after its instruction. -/
theorem pc_turned (completes : m.fault? = none) (straight : m.straight) :
    m.turned.registers.pc = m.space.clearLog.fetch.2.after m.instruction := by
  have performed : (m.space.clearLog.fetch.2.perform m.instruction m.space.clearLog.fetch.1.address).2 = none := by
    rw [← execute_eq]
    exact completes
  have turned : m.turned = (m.space.clearLog.fetch.2.perform m.instruction m.space.clearLog.fetch.1.address).1 := by
    rw [← execute_eq]
    rfl
  rw [turned]
  cases hi : m.instruction.action with
  | set =>
    have elsewhere : m.instruction.a ≠ 0x1C := by simpa [Machine.straight, hi] using straight
    rw [Space.pc_perform_set _ _ hi, if_neg elsewhere]
  | compute op =>
    have elsewhere : m.instruction.a ≠ 0x1C := by simpa [Machine.straight, hi] using straight
    obtain ⟨out, hout⟩ := Space.exists_apply_of_completes _ _ hi performed
    rw [Space.pc_perform_compute _ _ hi hout, if_neg elsewhere]
  | test t =>
    have holds : t.holds (m.space.clearLog.fetch.2.operands m.instruction).1.a.value
        (m.space.clearLog.fetch.2.operands m.instruction).1.b.value := by
      simpa [Machine.straight, hi] using straight
    rw [Space.pc_perform_test _ _ hi holds]
  | call => simp [Machine.straight, hi] at straight
  | undefined =>
    rw [Space.perform_undefined _ _ hi, Instruction.decode, Word.ofInt_address]
    rfl

/-- After a step that goes straight on, the program counter is where a listing has its next line. -/
theorem address_turned (completes : m.fault? = none) (straight : m.straight) :
    m.turned.registers.pc.address =
      (m.space.registers.pc.address + (m.space.line m.space.registers.pc.address).size) % 0x10000 := by
  have size : (m.space.line m.space.registers.pc.address).size = m.instruction.size := by
    rw [Space.size_line, Space.length_operationAt]
    rfl
  rw [pc_turned completes straight, Space.address_after, size]
  rfl

/-! ### Following a listing -/

theorem activity_trace_succ {n : Nat} (completes : m.fault? = none) :
    (m.trace (n + 1)).activity = m.turned.log ++ (m.next.trace n).activity := by
  rw [trace_succ_of_completes n completes]
  rfl

/-- A run that goes straight on follows a listing of a space that has the same words where the listing shows any. -/
theorem trace_follows {s : Space} {m : Machine} {start : Int} {n : Nat} (at_start : m.space.registers.pc.address = start)
    (same : ∀ k : Nat, k < Line.total (s.listing start n) →
      m.space.cell ((start + k) % 0x10000) = s.cell ((start + k) % 0x10000))
    (completes : (m.trace n).fault = none) (straight : ∀ i < n, (m.trace i).machine.straight)
    (unwritten : ∀ k : Nat, k < Line.total (s.listing start n) →
      ∀ e ∈ (m.trace n).activity, e.written? ≠ some ((start + k) % 0x10000)) :
    ∀ i < n, ∃ address shown, (m.trace i).machine.space.registers.pc.address = address ∧
      (s.listing start n)[i]? = some (s.line address) ∧ (m.trace n).snapshots[i]? = some shown ∧
      shown.operation = s.operationAt address := by
  induction n generalizing m start with
  | zero => exact fun i hi => absurd hi (Nat.not_lt_zero i)
  | succ n ih =>
    obtain ⟨first, rest⟩ := fault_trace_succ_eq_none_iff.1 completes
    have total : Line.total (s.listing start (n + 1)) = (s.line start).size +
        Line.total (s.listing ((start + (s.line start).size) % 0x10000) n) := by
      rw [Space.listing_succ, Space.total_cons]
    rw [activity_trace_succ first] at unwritten
    rw [total] at same unwritten
    -- the line of the first step is the same in both spaces
    have here : m.space.operationAt start = s.operationAt start := by
      have nonneg : 0 ≤ start := at_start ▸ Word.address_nonneg _
      have lt : start < 0x10000 := at_start ▸ Word.address_lt _
      refine Space.operationAt_congr_words nonneg lt fun k hk => ?_
      rw [← Space.size_line] at hk
      exact same k (by omega)
    have at_next : m.next.space.registers.pc.address = (start + (s.line start).size) % 0x10000 := by
      have turned := address_turned first (straight 0 (Nat.succ_pos n))
      rw [at_start, Space.size_line, here, ← Space.size_line] at turned
      exact turned
    -- the words of the other lines are the same after the first step
    have shift (k : Nat) : ((start + (s.line start).size) % 0x10000 + k) % 0x10000 =
        (start + (((s.line start).size + k : Nat) : Int)) % 0x10000 := by omega
    have same_next : ∀ k : Nat, k < Line.total (s.listing ((start + (s.line start).size) % 0x10000) n) →
        m.next.space.cell (((start + (s.line start).size) % 0x10000 + k) % 0x10000) =
          s.cell (((start + (s.line start).size) % 0x10000 + k) % 0x10000) := by
      intro k hk
      have inside : (s.line start).size + k < (s.line start).size +
          Line.total (s.listing ((start + (s.line start).size) % 0x10000) n) := by omega
      rw [shift, ← same _ inside]
      exact m.trail_turned.cell_eq fun e he => unwritten _ inside e (List.mem_append_left _ he)
    have follow := ih at_next same_next rest
      (fun i hi => by
        have later := straight (i + 1) (Nat.succ_lt_succ hi)
        rwa [trace_succ_of_completes i first] at later)
      fun k hk e he => by
        rw [shift]
        exact unwritten _ (by omega) e (List.mem_append_right _ he)
    rintro (_ | i) hi
    · refine ⟨start, m.snapshot, at_start, ?_, ?_, ?_⟩
      · rw [Space.listing_succ, List.getElem?_cons_zero]
      · rw [trace_succ_of_completes n first, List.getElem?_cons_zero]
      · rw [← here, ← at_start]
        rfl
    · obtain ⟨address, shown, reached, listed, snapshot, operation⟩ := follow i (Nat.lt_of_succ_lt_succ hi)
      refine ⟨address, shown, ?_, ?_, ?_, operation⟩
      · rwa [trace_succ_of_completes i first]
      · rwa [Space.listing_succ, List.getElem?_cons_succ]
      · rwa [trace_succ_of_completes n first, List.getElem?_cons_succ]

/-- **Execution follows the listing.** Let consecutive steps complete and go straight on, and let none of their accesses
write a word of the listing that was made before them. Then each step begins at the address of its line and shows the
words and the text of this line. -/
theorem trace_follows_listing (m : Machine) (n : Nat) (completes : (m.trace n).fault = none)
    (straight : ∀ i < n, (m.trace i).machine.straight)
    (unwritten : ∀ e ∈ (m.trace n).activity, ∀ k : Nat,
      k < Line.total (m.space.listing m.space.registers.pc.address n) →
        e.written? ≠ some ((m.space.registers.pc.address + k) % 0x10000)) :
    ∀ i < n, ∃ line shown, (m.space.listing m.space.registers.pc.address n)[i]? = some line ∧
      (m.trace n).snapshots[i]? = some shown ∧
      (m.trace i).machine.space.registers.pc.address = line.address ∧
      " ".intercalate (shown.operation.opcodeHex :: shown.operation.trailing.map fun w => wordStyle.text w.address) =
        line.words ∧
      shown.operation.text = line.text := by
  intro i hi
  obtain ⟨address, shown, reached, listed, snapshot, operation⟩ :=
    trace_follows rfl (fun _ _ => rfl) completes straight (fun k hk e he => unwritten e he k hk) i hi
  refine ⟨_, shown, listed, snapshot, reached, ?_, ?_⟩
  · rw [operation]
    rfl
  · rw [operation]
    rfl

/-- Three instructions around the end of memory: a transfer to another cell, a test that succeeds, and an undefined
instruction of two words. -/
theorem trace_follows_listing_around_end :
    let program : List (Int × Int) := [(0xFFFE, 0x95E1), (0xFFFF, 0x2000), (0, 0x965C), (1, 0x95E0), (2, 7)]
    let m : Machine := { space := Space.loadPairs { registers := { pc := 0xFFFE } } program }
    (m.trace 3).fault = none ∧ (∀ i < 3, (m.trace i).machine.straight) ∧
      Line.total (m.space.listing m.space.registers.pc.address 3) = 5 ∧
      (∀ e ∈ (m.trace 3).activity, ∀ k : Nat, k < 5 → e.written? ≠ some ((m.space.registers.pc.address + k) % 0x10000)) ∧
      ∃ shown, (m.trace 3).snapshots[2]? = some shown ∧ (m.trace 2).machine.space.registers.pc = 1 ∧
        " ".intercalate (shown.operation.opcodeHex :: shown.operation.trailing.map fun w => wordStyle.text w.address) =
          "95E0 0007" ∧
        shown.operation.text = "UNKNOWN 0x1E, 0x05" := by
  intro program m
  have completes : (m.trace 3).fault = none := by decide
  have straight : ∀ i < 3, (m.trace i).machine.straight := by decide
  have total : Line.total (m.space.listing m.space.registers.pc.address 3) = 5 := by decide
  have unwritten : ∀ e ∈ (m.trace 3).activity, ∀ k : Nat, k < 5 →
      e.written? ≠ some ((m.space.registers.pc.address + k) % 0x10000) := by decide
  have line : (m.space.listing m.space.registers.pc.address 3)[2]? =
      some ⟨1, "95E0 0007", "UNKNOWN 0x1E, 0x05"⟩ := by decide
  obtain ⟨l, shown, listed, snapshot, reached, words, text⟩ :=
    m.trace_follows_listing 3 completes straight (fun e he k hk => unwritten e he k (total ▸ hk)) 2 (by decide)
  obtain rfl : _ = l := Option.some.inj (line.symm.trans listed)
  exact ⟨completes, straight, total, unwritten, shown, snapshot, by decide, words, text⟩

end Machine

end Dcpu16
