import Dcpu16.Proofs.Journal

/-!
The recorded reads are everything a step depends on. Two spaces that agree on a set of addresses, on the registers
and on the policy cannot be told apart by a routine whose reads stay inside the set: it gives the same result, makes
the same accesses up to the words it overwrites, and keeps the agreement (`Routine.agree`). For a step the set can
be taken to be the reads of the step itself (`step_depends_on_reads`).
-/

namespace Dcpu16

/-- What an access shows of the machine that made it: all but the overwritten word. -/
def Access.effect : Access → Access
  | read address data => read address data
  | write address data _ => write address data 0

/-- Two spaces agree on the addresses in `E`, on the registers, and on the log up to overwritten words. -/
structure Agree (E : Int → Prop) (s t : Space) : Prop where
  policy : t.policy = s.policy
  registers : t.registers = s.registers
  log : t.log.map Access.effect = s.log.map Access.effect
  words : ∀ a, E a → t.cells.word a = s.cells.word a

namespace Agree

variable {E : Int → Prop} {s t : Space}

theorem touch (h : Agree E s t) {address : Int} (ha : E (s.policy.normalize address)) :
    Agree E (s.touch (.cell address)) (t.touch (.cell address)) where
  policy := h.policy
  registers := h.registers
  log := by
    show (t.log ++ [t.readAt address]).map _ = (s.log ++ [s.readAt address]).map _
    have hread : t.readAt address = s.readAt address := by
      rw [Space.readAt, Space.readAt, Space.cell_eq, Space.cell_eq, h.policy, h.words _ ha]
    rw [List.map_append, List.map_append, h.log, hread]
  words := h.words

theorem store (h : Agree E s t) (address : Int) (w : Word) :
    Agree E (s.store (.cell address) w) (t.store (.cell address) w) where
  policy := h.policy
  registers := h.registers
  log := by
    simp only [Space.store, List.map_append, h.log, h.policy]
    rfl
  words a ha := by
    simp only [Space.store, Cells.word_insert, h.policy, h.words a ha]

theorem set (h : Agree E s t) (r : Register) (w : Word) :
    Agree E (s.store (.register r) w) (t.store (.register r) w) where
  policy := h.policy
  registers := by rw [Space.registers_store_register, Space.registers_store_register, h.registers]
  log := h.log
  words := h.words

end Agree

/-- **A routine depends on what it reads.** -/
theorem Routine.agree {α : Type} {f : Space → α × Space} (hf : Routine f) {E : Int → Prop} {s t : Space}
    (h : Agree E s t) (hE : ∀ a d, .read a d ∈ (f s).2.log → E a) :
    (f t).1 = (f s).1 ∧ Agree E (f s).2 (f t).2 := by
  induction hf generalizing s t with
  | pure a => exact ⟨rfl, h⟩
  | registers => exact ⟨h.registers, h⟩
  | @read address ha =>
    have hin : E (s.policy.normalize address) := hE _ (s.cell address) (by
      rw [Space.snd_read]
      exact List.mem_append_right _ (List.mem_singleton.2 rfl))
    refine ⟨?_, h.touch hin⟩
    show t.cell address = s.cell address
    rw [Space.cell_eq, Space.cell_eq, h.policy, h.words _ hin]
  | store ha w => exact ⟨rfl, h.store _ w⟩
  | set r w => exact ⟨rfl, h.set r w⟩
  | @bind α β f g hf hg ihf ihg =>
    -- the reads of the first part are still in the log when the second part has ended
    have hEf : ∀ a d, .read a d ∈ (f s).2.log → E a := fun a d hmem =>
      hE a d (((hg s).prefix_log (f s).2).subset hmem)
    obtain ⟨hresult, hagree⟩ := ihf h hEf
    show (g (f t).1 (f t).2).1 = _ ∧ Agree E _ (g (f t).1 (f t).2).2
    rw [hresult]
    exact ihg s hagree hE

/-- **The recorded reads are everything a step depends on.** Let two machines have the same policy and registers, and
the same word at every address that a step of the first reads, whether the step completes or not. Then a step of
the second makes the same accesses in the same order, but for the words that a write replaces, ends in the same
fault or in none, and leaves the same registers. -/
theorem Machine.step_depends_on_reads (m n : Machine) (policy : n.space.policy = m.space.policy)
    (registers : n.space.registers = m.space.registers)
    (words : ∀ a d, .read a d ∈ m.accesses → n.space.cell a = m.space.cell a) :
    n.accesses.map Access.effect = m.accesses.map Access.effect ∧
    (∀ f, n.step.2 = .error f ↔ m.step.2 = .error f) ∧
    n.step.1.space.registers = m.step.1.space.registers := by
  rw [accesses_eq] at words
  have agree : Agree (fun a => ∃ d, .read a d ∈ m.turned.log) m.space.clearLog n.space.clearLog := by
    refine ⟨policy, registers, rfl, ?_⟩
    rintro a ⟨d, hd⟩
    have hnormal : m.space.policy.normalize a = a := m.trail_turned.normalize_address hd
    have hw := words a d hd
    rw [Space.cell_eq, Space.cell_eq, policy, hnormal] at hw
    exact hw
  obtain ⟨hfault, hafter⟩ := Routine.turn.agree agree fun a d h => ⟨d, h⟩
  refine ⟨?_, fun f => ?_, ?_⟩
  · rw [accesses_eq, accesses_eq]
    exact hafter.log
  · rw [step_eq_error_iff, step_eq_error_iff, fault?, fault?, hfault]
  · rw [registers_step, registers_step]
    exact hafter.registers

/-- A call, on two machines that differ in the cell where the return address goes. -/
theorem Machine.step_depends_on_reads_call :
    let m : Machine := { space := Space.load {} 0 0x9010 }
    let n : Machine := { space := m.space.load 0xFFFF 9 }
    (∀ a d, .read a d ∈ m.accesses → n.space.cell a = m.space.cell a) ∧
      n.accesses.map Access.effect = m.accesses.map Access.effect ∧
      (∀ f, n.step.2 = .error f ↔ m.step.2 = .error f) ∧
      n.step.1.space.registers = m.step.1.space.registers := by
  intro m n
  have accesses : m.accesses = [.read 0 0x9010, .write 0xFFFF 1 0] := by decide
  have words (a : Int) (d : Word) (h : .read a d ∈ m.accesses) : n.space.cell a = m.space.cell a := by
    rw [accesses] at h
    obtain ⟨rfl, -⟩ : a = 0 ∧ d = 0x9010 := by simpa using h
    decide
  exact ⟨words, m.step_depends_on_reads n rfl rfl words⟩

end Dcpu16
