import Dcpu16.Proofs.Journal

/-!
The two policies against each other. An address from `0` to `0xFFFF` names the same cell under both, and an
instruction forms no negative address. So a machine whose records stay below `0x10000` runs in lock-step with the
machine that has the same contents under the wrap policy: the snapshots, the fault and the contents at the end are
the same (`trace_eq_of_mirrors`). Listings, which leave no record, look no further than that in any case.
-/

namespace Dcpu16

/-- The same space under the wrap policy. -/
def Space.wrapped (s : Space) : Space := { s with policy := .wrap }

/-! ### One access -/

namespace Space

variable {s : Space} (sparse : s.policy = .sparse)

include sparse

theorem normalize_wrapped {address : Int} (nonneg : 0 ≤ address) (le : address ≤ 0xFFFF) :
    s.wrapped.policy.normalize address = s.policy.normalize address := by
  rw [sparse]
  exact Int.emod_eq_of_lt nonneg (by omega)

theorem cell_wrapped {address : Int} (nonneg : 0 ≤ address) (le : address ≤ 0xFFFF) :
    s.wrapped.cell address = s.cell address := by
  rw [cell_eq, cell_eq, normalize_wrapped sparse nonneg le]
  rfl

theorem touch_wrapped {address : Int} (nonneg : 0 ≤ address) (le : address ≤ 0xFFFF) :
    s.wrapped.touch (.cell address) = (s.touch (.cell address)).wrapped := by
  simp only [touch, record, normalize_wrapped sparse nonneg le, cell_wrapped sparse nonneg le]
  rfl

theorem store_wrapped {address : Int} (nonneg : 0 ≤ address) (le : address ≤ 0xFFFF) (w : Word) :
    s.wrapped.store (.cell address) w = (s.store (.cell address) w).wrapped := by
  simp only [store, normalize_wrapped sparse nonneg le, cell_wrapped sparse nonneg le]
  rfl

/-- A listing looks up the words of an instruction modulo `0x10000` under both policies. -/
theorem operationAt_wrapped {address : Int} (nonneg : 0 ≤ address) (le : address ≤ 0xFFFF) :
    s.wrapped.operationAt address = s.operationAt address := by
  have trailing (distance : Nat) : s.wrapped.following address distance = s.following address distance := by
    refine cell_wrapped sparse (Int.emod_nonneg _ (by decide)) ?_
    have := Int.emod_lt_of_pos (address + 1 + distance) (show (0 : Int) < 0x10000 by decide)
    omega
  simp only [operationAt, trailing, cell_wrapped sparse nonneg le]

end Space

/-! ### One instruction -/

/-- **A routine whose records stay below `0x10000` does the same under the wrap policy.** -/
theorem Routine.wrapped {α : Type} {f : Space → α × Space} (hf : Routine f) {s : Space} (sparse : s.policy = .sparse)
    (inRange : ∀ e ∈ (f s).2.log, e.address ≤ 0xFFFF) : f s.wrapped = ((f s).1, (f s).2.wrapped) := by
  induction hf generalizing s with
  | pure a => rfl
  | registers => rfl
  | @read address h =>
    have le : address ≤ 0xFFFF := by
      have := inRange (s.readAt address) (List.mem_append_right _ (List.mem_singleton.2 rfl))
      rwa [Space.readAt, sparse] at this
    exact Prod.ext (Space.cell_wrapped sparse h.1 le) (Space.touch_wrapped sparse h.1 le)
  | @store address h w =>
    have le : address ≤ 0xFFFF := by
      have := inRange (.write (s.policy.normalize address) w (s.cell address))
        (List.mem_append_right _ (List.mem_singleton.2 rfl))
      rwa [sparse] at this
    exact Prod.ext rfl (Space.store_wrapped sparse h.1 le w)
  | set r w => rfl
  | @bind α β f g hf hg ihf ihg =>
    -- the records of the first part are still in the log when the second part has ended
    have inRangeF : ∀ e ∈ (f s).2.log, e.address ≤ 0xFFFF := fun e he =>
      inRange e (((hg s).prefix_log (f s).2).subset he)
    have sparseF : (f s).2.policy = .sparse := by
      obtain ⟨es, -, trail⟩ := hf.trail s
      rw [trail.policy, sparse]
    have hf' : f s.wrapped = ((f s).1, (f s).2.wrapped) := ihf sparse inRangeF
    show g (f s.wrapped).1 (f s.wrapped).2 = _
    rw [hf']
    exact ihg s sparseF inRange

namespace Machine

/-- `w` has the contents of `m`, and is under the wrap policy where `m` is under the sparse one. -/
structure Mirrors (m w : Machine) : Prop where
  sparse : m.space.policy = .sparse
  wrap : w.space.policy = .wrap
  registers : w.space.registers = m.space.registers
  cells : w.space.cells = m.space.cells
  log : w.space.log = m.space.log
  stepCount : w.stepCount = m.stepCount
  symbols : w.symbols = m.symbols

namespace Mirrors

variable {m w : Machine} (h : Mirrors m w)

include h

theorem space_eq : w.space = m.space.wrapped := by
  have fields : w.space = ⟨w.space.policy, w.space.cells, w.space.registers, w.space.log⟩ := rfl
  rw [fields, h.wrap, h.cells, h.registers, h.log]
  rfl

/-! ### One step -/

variable (inRange : ∀ e ∈ m.turned.log, e.address ≤ 0xFFFF)

include inRange

theorem turn_eq : w.space.clearLog.turn = (m.fault?, m.turned.wrapped) := by
  rw [h.space_eq]
  exact Routine.turn.wrapped (s := m.space.clearLog) h.sparse inRange

theorem fault?_eq : w.fault? = m.fault? := by
  rw [fault?, h.turn_eq inRange]

theorem turned_eq : w.turned = m.turned.wrapped := by
  rw [turned, h.turn_eq inRange]

theorem snapshot_eq : w.snapshot = m.snapshot := by
  have hpc := m.space.registers.pc.address_lt
  have operation : w.space.operationAt m.space.registers.pc.address =
      m.space.operationAt m.space.registers.pc.address := by
    rw [h.space_eq]
    exact Space.operationAt_wrapped h.sparse m.space.registers.pc.address_nonneg (by omega)
  have label (address : Int) : w.label address = m.label address := by
    rw [Machine.label, h.symbols, Machine.label]
  have describes (address : Int) (op : Operation) : w.describe address op = m.describe address op := by
    rw [describe, label, describe]
  simp only [snapshot, h.registers, operation, describes, h.turned_eq inRange, h.stepCount]
  rfl

/-- The machines after a step that completes. -/
theorem next : Mirrors m.next w.next where
  sparse := m.trail_turned.policy.trans h.sparse
  wrap := w.trail_turned.policy.trans h.wrap
  registers := by
    show w.turned.registers = m.turned.registers
    rw [h.turned_eq inRange, Space.wrapped]
  cells := by
    show w.turned.cells = m.turned.cells
    rw [h.turned_eq inRange, Space.wrapped]
  log := rfl
  stepCount := congrArg (· + 1) h.stepCount
  symbols := h.symbols

/-- The machines after a step that faults. -/
theorem afterFault : Mirrors { m with space := m.turned } { w with space := w.turned } where
  sparse := m.trail_turned.policy.trans h.sparse
  wrap := w.trail_turned.policy.trans h.wrap
  registers := by rw [h.turned_eq inRange, Space.wrapped]
  cells := by rw [h.turned_eq inRange, Space.wrapped]
  log := by rw [h.turned_eq inRange, Space.wrapped]
  stepCount := h.stepCount
  symbols := h.symbols

end Mirrors

/-! ### Consecutive steps -/

/-- **Below `0x10000` the policies agree.** Let a machine under the wrap policy have the contents of one under the sparse
policy, and let the accesses of a number of steps of the latter, those of a step that faults included, have no address past
`0xFFFF`. Then these steps give the same snapshots and end in the same fault or none on both machines, which have the
same contents afterwards. -/
theorem trace_eq_of_mirrors {m w : Machine} (h : Mirrors m w) (n : Nat)
    (inRange : ∀ e ∈ (m.trace n).accesses, e.address ≤ 0xFFFF) :
    (w.trace n).snapshots = (m.trace n).snapshots ∧ (w.trace n).fault = (m.trace n).fault ∧
      Mirrors (m.trace n).machine (w.trace n).machine := by
  induction n generalizing m w with
  | zero => exact ⟨rfl, rfl, h⟩
  | succ n ih =>
    cases hf : m.fault? with
    | some f =>
      rw [accesses_trace_succ_of_fault n hf] at inRange
      have hw : w.fault? = some f := (h.fault?_eq inRange).trans hf
      rw [trace_succ_of_fault n hf, trace_succ_of_fault n hw]
      exact ⟨rfl, rfl, h.afterFault inRange⟩
    | none =>
      rw [accesses_trace_succ_of_completes n hf] at inRange
      have first : ∀ e ∈ m.turned.log, e.address ≤ 0xFFFF := fun e he => inRange e (List.mem_append_left _ he)
      have hw : w.fault? = none := (h.fault?_eq first).trans hf
      obtain ⟨snapshots, fault, after⟩ := ih (h.next first) fun e he => inRange e (List.mem_append_right _ he)
      rw [trace_succ_of_completes n hf, trace_succ_of_completes n hw]
      refine ⟨?_, fault, after⟩
      show w.snapshot :: _ = m.snapshot :: _
      rw [h.snapshot_eq first, snapshots]

/-- Five is pushed at the last address, the instruction that pushed it is overwritten, and the third step divides by
zero. -/
theorem trace_eq_of_mirrors_push_fault :
    let m : Machine := { space := Space.loadWords {} [0x95A1, 0x9DE1, 0x0000, 0x8005] 0 }
    let w : Machine := { space := m.space.wrapped }
    Mirrors m w ∧ (∀ e ∈ (m.trace 3).accesses, e.address ≤ 0xFFFF) ∧
      (w.trace 3).snapshots = (m.trace 3).snapshots ∧
      (w.trace 3).fault = some (.divisionByZero 3 0x8005) ∧ Mirrors (m.trace 3).machine (w.trace 3).machine := by
  intro m w
  have mirrors : Mirrors m w := ⟨rfl, rfl, rfl, rfl, rfl, rfl, rfl⟩
  have inRange : ∀ e ∈ (m.trace 3).accesses, e.address ≤ 0xFFFF := by decide
  have fault : (m.trace 3).fault = some (.divisionByZero 3 0x8005) := by decide
  obtain ⟨snapshots, same, after⟩ := trace_eq_of_mirrors mirrors 3 inRange
  exact ⟨mirrors, inRange, snapshots, same.trans fault, after⟩

end Machine

end Dcpu16
