import Dcpu16.Proofs.Cycle

/-!
Runs within a budget that nobody observes. Such a run makes consecutive steps from the machine it starts with, up to
its budget or the first fault, and nothing else (`run_idle`): what it reports can be read off the trace of these
steps. So a run that has used up its budget can be continued by another one as if the budgets were one
(`run_iterates_step`), provided that the stack pointer is zero, which is where every run puts it.
-/

namespace Dcpu16

variable {σ : Type}

/-! ### Traces as runs -/

namespace Trace

/-- Why a run that consists of consecutive steps ends. -/
def ending (t : Trace) : Ending :=
  match t.fault with
  | none => .stepLimit
  | some f => .fault f

/-- Where a run that consists of consecutive steps ends. -/
def pc (t : Trace) : Word :=
  match t.fault with
  | none => t.machine.space.registers.pc
  | some (.divisionByZero pc _) => pc

/-- The run that consists of consecutive steps, after some steps that were made before. -/
def toRun (t : Trace) (memo : σ) (steps : Nat) : Run σ :=
  ⟨⟨t.ending, steps + t.snapshots.length, t.pc⟩, t.machine.stop, memo⟩

end Trace

namespace Machine

theorem ending?_idle {m : Machine} (running : m.running = true) (memo : σ) (budget : Option Int) (steps : Nat) :
    (Observer.idle memo m).ending? budget steps =
      if exhausts steps budget then some .stepLimit else m.fault?.map .fault := by
  simp [Poll.ending?, Observer.idle, running]

theorem toRun_trace_zero (m : Machine) (memo : σ) (steps : Nat) :
    (m.trace 0).toRun memo steps = (Observer.idle memo m).conclude steps .stepLimit := rfl

theorem toRun_trace_succ_of_fault {m : Machine} (n : Nat) {f : Fault} (h : m.fault? = some f) (memo : σ) (steps : Nat) :
    (m.trace (n + 1)).toRun memo steps = (Observer.idle memo m).conclude steps (.fault f) := by
  have hf := m.fault_eq h
  have left : (Observer.idle memo m).left (.fault f) = m.step.1.stop := rfl
  rw [trace_succ_of_fault n h, Poll.conclude, left, m.step_of_fault h, hf]
  rfl

theorem toRun_trace_succ_of_completes {m : Machine} (n : Nat) (h : m.fault? = none) (memo : σ) (steps : Nat) :
    (m.trace (n + 1)).toRun memo steps = (m.next.trace n).toRun memo (steps + 1) := by
  have length : steps + ((m.next.trace n).snapshots.length + 1) = steps + 1 + (m.next.trace n).snapshots.length := by
    omega
  rw [trace_succ_of_completes n h, Trace.toRun, Trace.toRun, ← length]
  rfl

/-- A run that nobody observes makes the steps that are left of its budget. -/
theorem cycle_idle {n : Int} {k steps : Nat} (left : steps + k = n.toNat) {m : Machine} (running : m.running = true)
    (memo : σ) : cycle .idle (some n) (k + 1) steps memo m = some ((m.trace k).toRun memo steps) := by
  induction k generalizing steps m with
  | zero =>
    have used : exhausts steps (some n) = true := exhausts_some_iff.2 (by omega)
    rw [toRun_trace_zero]
    apply cycle_of_ending
    rw [ending?_idle running, if_pos used]
  | succ k ih =>
    have unused : ¬ exhausts steps (some n) = true := fun h => by
      have := exhausts_some_iff.1 h
      omega
    cases h : m.fault? with
    | some f =>
      rw [toRun_trace_succ_of_fault k h]
      apply cycle_of_ending
      rw [ending?_idle running, if_neg unused, h, Option.map_some]
    | none =>
      have goesOn : (Observer.idle memo m).ending? (some n) steps = none := by
        rw [ending?_idle running, if_neg unused, h, Option.map_none]
      have stepped : (Observer.idle memo m).machine.step.1 = m.next := by
        show m.step.1 = _
        rw [m.step_of_completes h]
      rw [cycle_of_goes_on goesOn, stepped, toRun_trace_succ_of_completes k h]
      exact ih (by omega) running

/-- **A run that nobody observes is a trace.** -/
theorem run_idle (m : Machine) (start : Option Int) (n : Int) (memo : σ) (patience : Nat) :
    m.run start (some n) .idle memo patience = some (((m.started start).trace n.toNat).toRun memo 0) := by
  have launched : (m.launch start).running = true := rfl
  have stopped : ((m.launch start).trace n.toNat).toRun memo 0 = ((m.started start).trace n.toNat).toRun memo 0 := by
    rw [launch_eq, trace_withRunning]
    rfl
  rw [← stopped]
  exact cycle_idle (Nat.zero_add _) launched memo

/-- A trace as a run ends after the last step allowed or at the first fault, on the machine that the completed steps
have reached. -/
theorem toRun_trace_cases (m : Machine) (n : Nat) (memo : σ) :
    let r := (m.trace n).toRun memo 0
    let k := r.result.steps
    let reached := (m.trace k).machine
    let pc := reached.space.registers.pc
    k ≤ n ∧ (m.trace k).fault = none ∧
      (k = n → r = ⟨⟨.stepLimit, k, pc⟩, reached.stop, memo⟩) ∧
      (k < n → ∃ f, reached.step.2 = .error f ∧ f = .divisionByZero pc (reached.space.cell pc.address).address ∧
        r = ⟨⟨.fault f, k, pc⟩, reached.step.1.stop, memo⟩) := by
  intro r k reached pc
  have hk : k = (m.trace n).snapshots.length := Nat.zero_add _
  obtain ⟨le, completes, last⟩ := m.trace_length n
  rw [← hk] at le completes last
  refine ⟨le, completes, fun all => ?_, fun some_left => ?_⟩
  · have fault : (m.trace n).fault = none := all ▸ completes
    show (⟨⟨(m.trace n).ending, k, (m.trace n).pc⟩, (m.trace n).machine.stop, memo⟩ : Run σ) = _
    rw [Trace.ending, Trace.pc, fault]
    show _ = (⟨⟨.stepLimit, k, (m.trace k).machine.space.registers.pc⟩, (m.trace k).machine.stop, memo⟩ : Run σ)
    rw [← all]
  · cases hf : (m.trace n).fault with
    | none =>
      rw [hf] at last
      exact absurd last (Nat.ne_of_lt some_left)
    | some f =>
      rw [hf] at last
      have step : reached.step = ((m.trace n).machine, .error f) := last.2
      have error : reached.step.2 = .error f := by rw [step]
      have what : f = .divisionByZero pc (reached.space.cell pc.address).address :=
        reached.fault_eq (reached.step_eq_error_iff.1 error)
      refine ⟨f, error, what, ?_⟩
      show (⟨⟨(m.trace n).ending, k, (m.trace n).pc⟩, (m.trace n).machine.stop, memo⟩ : Run σ) = _
      rw [Trace.ending, Trace.pc, hf, step, what]

/-! ### Budgets -/

/-- A machine whose stack pointer is zero starts as it is. -/
theorem started_none {m : Machine} (h : m.space.registers.sp = 0) : m.started none = m := by
  unfold started
  rw [← h]
  rfl

/-- What a run reports that goes on where a trace has ended. -/
theorem toRun_trace_add {m : Machine} {n : Nat} (h : (m.trace n).fault = none) (k : Nat) (memo : σ) :
    let second := ((m.trace n).machine.stop.trace k).toRun memo 0
    let whole := (m.trace (n + k)).toRun memo 0
    whole.result.steps = ((m.trace n).toRun memo 0).result.steps + second.result.steps ∧
      whole.machine = second.machine ∧ whole.result.ending = second.result.ending ∧
      whole.result.pc = second.result.pc := by
  intro second whole
  have stopped : second = ((m.trace n).machine.trace k).toRun memo 0 := by
    show (({ (m.trace n).machine with running := false } : Machine).trace k).toRun memo 0 = _
    rw [trace_withRunning]
    rfl
  have joined : whole = ({ (m.trace n).machine.trace k with
      snapshots := (m.trace n).snapshots ++ ((m.trace n).machine.trace k).snapshots } : Trace).toRun memo 0 := by
    show (m.trace (n + k)).toRun memo 0 = _
    rw [trace_add h]
  rw [stopped, joined]
  refine ⟨?_, rfl, rfl, rfl⟩
  simp only [Trace.toRun, List.length_append, Nat.zero_add]

/-- **A run within a budget is bounded iteration of the step.** A run with the budget `n` that nobody observes ends.
It has completed `k` steps from the machine it started, at most `n`, and counted them. If these are all that the
budget allows, it reports so and leaves the machine they have reached. Otherwise the next step from there is at
fault; the run reports the fault, which names the program counter before that step and the word there, and leaves
what that step left. A run that has used up its budget with the stack pointer at zero, followed by another one, does
what a single run does within both budgets together. -/
theorem run_iterates_step (m : Machine) (start : Option Int) (n : Int) (memo : σ) (patience : Nat) :
    ∃ r, m.run start (some n) .idle memo patience = some r ∧
      let k := r.result.steps
      let reached := ((m.started start).trace k).machine
      let pc := reached.space.registers.pc
      k ≤ n.toNat ∧ ((m.started start).trace k).fault = none ∧ r.machine.stepCount = m.stepCount + k ∧
      (k = n.toNat → r = ⟨⟨.stepLimit, k, pc⟩, reached.stop, memo⟩) ∧
      (k < n.toNat → ∃ f, reached.step.2 = .error f ∧ f = .divisionByZero pc (reached.space.cell pc.address).address ∧
        r = ⟨⟨.fault f, k, pc⟩, reached.step.1.stop, memo⟩) ∧
      ∀ j : Nat, 0 ≤ n → r.result.ending = .stepLimit → r.machine.space.registers.sp = 0 →
        ∃ second whole, r.machine.run none (some j) .idle memo patience = some second ∧
          m.run start (some (n + j)) .idle memo patience = some whole ∧
          whole.result.steps = k + second.result.steps ∧ whole.machine = second.machine ∧
          whole.result.ending = second.result.ending ∧ whole.result.pc = second.result.pc := by
  obtain ⟨le, completes, all, fewer⟩ := toRun_trace_cases (m.started start) n.toNat memo
  refine ⟨_, m.run_idle start n memo patience, le, completes, ?_, all, fewer, ?_⟩
  · show ((m.started start).trace n.toNat).machine.stepCount = _
    rw [stepCount_trace]
    exact congrArg (m.stepCount + ·) (Nat.zero_add _).symm
  · intro j nonneg limit sp
    have fault : ((m.started start).trace n.toNat).fault = none := by
      cases h : ((m.started start).trace n.toNat).fault with
      | none => rfl
      | some f =>
        have ending : ((m.started start).trace n.toNat).ending = .stepLimit := limit
        rw [Trace.ending, h] at ending
        cases ending
    have budget : (n + j).toNat = n.toNat + j := by omega
    refine ⟨_, _, run_idle _ none j memo patience, m.run_idle start (n + j) memo patience, ?_⟩
    rw [started_none sp, budget, Int.toNat_natCast]
    exact toRun_trace_add fault j memo

/-- One step is made, then a second run makes another one and meets a division by zero, where a single run ends too. -/
theorem run_iterates_step_to_fault :
    let m : Machine := { space := Space.loadWords {} [0x8402, 0x8402, 0x0405] 0x10 }
    ∃ first second whole : Run Unit,
      m.run (some 0x10) (some 1) .idle () 0 = some first ∧ first.result = ⟨.stepLimit, 1, 0x11⟩ ∧
      first.machine.run none (some (5 : Nat)) .idle () 0 = some second ∧
      m.run (some 0x10) (some (1 + (5 : Nat))) .idle () 0 = some whole ∧
      whole.result = ⟨.fault (.divisionByZero 0x12 0x0405), 2, 0x12⟩ ∧ whole.machine = second.machine := by
  intro m
  obtain ⟨first, hfirst, -, -, -, all, -, continues⟩ := m.run_iterates_step (some 0x10) 1 () 0
  have result : (m.run (some 0x10) (some 1) .idle () 0).map Run.result = some ⟨.stepLimit, 1, 0x11⟩ := by decide
  have together : (m.run (some 0x10) (some (1 + (5 : Nat))) .idle () 0).map Run.result =
      some ⟨.fault (.divisionByZero 0x12 0x0405), 2, 0x12⟩ := by decide
  rw [hfirst, Option.map_some, Option.some.injEq] at result
  have steps : first.result.steps = 1 := by rw [result]
  have sp : first.machine.space.registers.sp = 0 := by
    rw [all (by rw [steps]; rfl), steps]
    decide
  obtain ⟨second, whole, hsecond, hwhole, -, machine, -, -⟩ := continues 5 (by decide) (by rw [result]) sp
  rw [hwhole, Option.map_some, Option.some.injEq] at together
  exact ⟨first, second, whole, hfirst, result, hsecond, hwhole, together, machine⟩

end Machine

end Dcpu16
