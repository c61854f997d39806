import Dcpu16.Machine
import Dcpu16.Proofs.Routine

/-!
Steps and their records. What a step does to the space is one routine, `Space.turn`: the fetch and the execution
of an instruction. The accesses it records stay in the log after a fault and leave with the snapshot otherwise
(`accesses_eq`). A trace is what a number of consecutive steps shows, up to the first fault.
-/

namespace Dcpu16

/-- Fetches the word that the program counter is on. -/
def Space.fetch (s : Space) : Word × Space := s.dereference (.register .PC)

/-- Fetches an instruction and executes it. -/
def Space.turn (s : Space) : Option Fault × Space := (s.fetch.2.execute s.fetch.1.address).swap

theorem Routine.turn : Routine Space.turn :=
  (dereference .PC).bind (g := fun (word : Word) s => (s.execute word.address).swap) fun s =>
    execute (Space.fetch s).1.address

/-- The instruction at an address as it is shown depends on the words of memory only. -/
theorem Space.operationAt_congr {s t : Space} (h : ∀ a, t.cell a = s.cell a) (address : Int) :
    t.operationAt address = s.operationAt address := by
  simp only [operationAt, following, h]

namespace Machine

variable (m : Machine)

/-! ### One step -/

/-- The space that a step leaves behind, before its records leave with the snapshot. -/
def turned : Space := m.space.clearLog.turn.2

/-- The fault of a step, if there is one. -/
def fault? : Option Fault := m.space.clearLog.turn.1

/-- What a step shows when it completes. -/
def snapshot : Snapshot where
  registers := m.turned.registers
  operation := m.space.operationAt m.space.registers.pc.address
  stepCount := m.stepCount + 1
  label := m.describe m.space.registers.pc.address (m.space.operationAt m.space.registers.pc.address)
  activity := m.turned.log

/-- The machine after a step that completes. -/
def next : Machine := { m with space := m.turned.clearLog, stepCount := m.stepCount + 1 }

theorem step_eq :
    m.step =
      match m.fault? with
      | some f => ({ m with space := m.turned }, .error f)
      | none => (m.next, .ok m.snapshot) := by
  have ho : m.space.clearLog.fetch.2.operationAt m.space.registers.pc.address =
      m.space.operationAt m.space.registers.pc.address := Space.operationAt_congr (fun _ => rfl) _
  have hfetch : m.space.clearLog.dereference (.register .PC) =
      (m.space.clearLog.fetch.1, m.space.clearLog.fetch.2) := rfl
  simp only [fault?, next, turned, snapshot, Space.turn, ← ho]
  rcases hx : m.space.clearLog.fetch.2.execute m.space.clearLog.fetch.1.address with ⟨s, _ | f⟩
  · simp only [step, hfetch, hx]
    rfl
  · simp only [step, hfetch, hx]
    rfl

theorem step_of_fault {f : Fault} (h : m.fault? = some f) : m.step = ({ m with space := m.turned }, .error f) := by
  rw [step_eq, h]

theorem step_of_completes (h : m.fault? = none) : m.step = (m.next, .ok m.snapshot) := by
  rw [step_eq, h]

theorem step_eq_error_iff {f : Fault} : m.step.2 = .error f ↔ m.fault? = some f := by
  cases h : m.fault? with
  | none => simp [m.step_of_completes h]
  | some g => simp [m.step_of_fault h]

theorem step_eq_ok_iff {snapshot : Snapshot} : m.step.2 = .ok snapshot ↔ m.fault? = none ∧ snapshot = m.snapshot := by
  cases h : m.fault? with
  | none => simp [m.step_of_completes h, eq_comm]
  | some f => simp [m.step_of_fault h]

/-- A fault names the address of its instruction and the word there. -/
theorem fault_eq {f : Fault} (h : m.fault? = some f) :
    f = .divisionByZero m.space.registers.pc (m.space.cell m.space.registers.pc.address).address := by
  have hf : (m.space.clearLog.fetch.2.execute m.space.clearLog.fetch.1.address).2 = some f := h
  rw [Space.execute, Space.perform] at hf
  split at hf
  case h_2 op _ =>
    -- only a computation can fail
    simp only at hf
    split at hf
    · exact (Option.some.inj hf).symm
    · cases hf
  all_goals cases hf

/-- The flag that says whether a run is going on has no part in a step. -/
theorem step_withRunning (running : Bool) :
    ({ m with running } : Machine).step = ({ m.step.1 with running }, m.step.2) := by
  have hf : ({ m with running } : Machine).fault? = m.fault? := rfl
  cases h : m.fault? with
  | none =>
    rw [step_of_completes _ (hf.trans h), m.step_of_completes h]
    rfl
  | some f => rw [step_of_fault _ (hf.trans h), m.step_of_fault h]; rfl

theorem running_step : m.step.1.running = m.running := by
  cases h : m.fault? with
  | none => rw [m.step_of_completes h]; rfl
  | some f => rw [m.step_of_fault h]

theorem registers_step : m.step.1.space.registers = m.turned.registers := by
  cases h : m.fault? with
  | none => rw [m.step_of_completes h]; rfl
  | some f => rw [m.step_of_fault h]

/-- The accesses that a step records, also one that ends in a fault. -/
def accesses : List Access :=
  match m.step with
  | (after, .error _) => after.space.log
  | (_, .ok snapshot) => snapshot.activity

theorem accesses_eq : m.accesses = m.turned.log := by
  unfold accesses
  cases h : m.fault? with
  | none => rw [m.step_of_completes h]; rfl
  | some f => rw [m.step_of_fault h]

end Machine

/-! ### Consecutive steps -/

/-- What consecutive steps show: the machine they leave behind, the snapshots of the completed ones, and the fault
that ended them early. -/
structure Trace where
  machine : Machine
  snapshots : List Snapshot
  fault : Option Fault

namespace Trace

/-- The accesses of the completed steps, in order. -/
def activity (t : Trace) : List Access := t.snapshots.flatMap Snapshot.activity

/-- The accesses of all steps, in order; those of a step that ended in a fault are still pending. -/
def accesses (t : Trace) : List Access :=
  t.activity ++
    match t.fault with
    | none => []
    | some _ => t.machine.space.log

end Trace

namespace Machine

/-- Makes a number of steps, or fewer if one ends in a fault. -/
def trace (m : Machine) : Nat → Trace
  | 0 => ⟨m, [], none⟩
  | n + 1 =>
    match m.step with
    | (after, .error f) => ⟨after, [], some f⟩
    | (after, .ok snapshot) => { after.trace n with snapshots := snapshot :: (after.trace n).snapshots }

theorem trace_succ_of_completes {m : Machine} (n : Nat) (h : m.fault? = none) :
    m.trace (n + 1) = { m.next.trace n with snapshots := m.snapshot :: (m.next.trace n).snapshots } := by
  rw [trace, m.step_of_completes h]

theorem trace_succ_of_fault {m : Machine} (n : Nat) {f : Fault} (h : m.fault? = some f) :
    m.trace (n + 1) = ⟨{ m with space := m.turned }, [], some f⟩ := by
  rw [trace, m.step_of_fault h]

theorem accesses_trace_succ_of_completes {m : Machine} (n : Nat) (h : m.fault? = none) :
    (m.trace (n + 1)).accesses = m.turned.log ++ (m.next.trace n).accesses := by
  rw [trace_succ_of_completes n h]
  exact List.append_assoc ..

theorem accesses_trace_succ_of_fault {m : Machine} (n : Nat) {f : Fault} (h : m.fault? = some f) :
    (m.trace (n + 1)).accesses = m.turned.log := by
  rw [trace_succ_of_fault n h]
  rfl

/-- A trace without a fault begins with a step that completes, and goes on without a fault. -/
theorem fault_trace_succ_eq_none_iff {m : Machine} {n : Nat} :
    (m.trace (n + 1)).fault = none ↔ m.fault? = none ∧ (m.next.trace n).fault = none := by
  cases h : m.fault? with
  | none => simp [trace_succ_of_completes n h]
  | some f => simp [trace_succ_of_fault n h]

theorem trace_withRunning (m : Machine) (running : Bool) (n : Nat) :
    ({ m with running } : Machine).trace n = { m.trace n with machine := { (m.trace n).machine with running } } := by
  induction n generalizing m with
  | zero => rfl
  | succ n ih =>
    rw [trace, trace, step_withRunning]
    rcases m.step with ⟨after, f | snapshot⟩
    · rfl
    · simp only [ih after]

/-- Completed steps are counted. -/
theorem stepCount_trace (m : Machine) (n : Nat) :
    (m.trace n).machine.stepCount = m.stepCount + (m.trace n).snapshots.length := by
  induction n generalizing m with
  | zero => rfl
  | succ n ih =>
    cases h : m.fault? with
    | none =>
      rw [trace_succ_of_completes n h]
      have counted : m.next.stepCount = m.stepCount + 1 := rfl
      show (m.next.trace n).machine.stepCount = m.stepCount + ((m.next.trace n).snapshots.length + 1)
      rw [ih, counted]
      omega
    | some f =>
      rw [trace_succ_of_fault n h]
      rfl

/-- Steps without a fault can be followed by more steps. -/
theorem trace_add {m : Machine} {n : Nat} (h : (m.trace n).fault = none) (k : Nat) :
    m.trace (n + k) =
      { (m.trace n).machine.trace k with
        snapshots := (m.trace n).snapshots ++ ((m.trace n).machine.trace k).snapshots } := by
  induction n generalizing m with
  | zero => rw [Nat.zero_add]; rfl
  | succ n ih =>
    obtain ⟨first, rest⟩ := fault_trace_succ_eq_none_iff.1 h
    rw [Nat.succ_add, trace_succ_of_completes _ first, trace_succ_of_completes n first, ih rest]
    rfl

/-- The steps up to the first fault are those that complete; the step after them is at fault, unless all were made. -/
theorem trace_length (m : Machine) (n : Nat) :
    let k := (m.trace n).snapshots.length
    k ≤ n ∧ (m.trace k).fault = none ∧
      match (m.trace n).fault with
      | none => k = n
      | some f => k < n ∧ (m.trace k).machine.step = ((m.trace n).machine, .error f) := by
  induction n generalizing m with
  | zero => exact ⟨Nat.le_refl 0, rfl, rfl⟩
  | succ n ih =>
    cases h : m.fault? with
    | none =>
      obtain ⟨le, completes, last⟩ := ih m.next
      rw [trace_succ_of_completes n h]
      simp only [List.length_cons]
      rw [trace_succ_of_completes _ h]
      refine ⟨Nat.succ_le_succ le, completes, ?_⟩
      revert last
      cases (m.next.trace n).fault with
      | none => exact fun last => congrArg (· + 1) last
      | some f => exact fun last => ⟨Nat.succ_lt_succ last.1, last.2⟩
    | some f =>
      rw [trace_succ_of_fault n h]
      exact ⟨Nat.zero_le _, rfl, Nat.succ_pos n, m.step_of_fault h⟩

end Machine

end Dcpu16
