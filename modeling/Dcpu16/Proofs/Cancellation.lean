import Dcpu16.Proofs.Cycle

/-!
Cancelling a run. Before it answers, the observer of a run may change the machine, stop it or make complete runs of its
own. The run looks at the answer and at the flag that says whether a run is going on. Stopping clears that flag, and so
does the end of every run, while nothing that an observer does leaves it set when it was clear (`Conduct.running_eq`).
So a run is cancelled exactly at the first poll at which the observer says so, stops the machine or makes a run of its
own, if neither a fault nor the budget has ended it before (`run_cancellation`).
-/

namespace Dcpu16

variable {σ : Type}

/-! ### Observers and what they do -/

/-- What an observer may do with a machine on one call, one thing after the other, and whether it interrupts the run
by that: it may change all but the flag, stop the machine, and make a complete run of its own, observed in any way. -/
inductive Conduct : Machine → Bool → Machine → Prop where
  | done (m : Machine) : Conduct m false m
  | change {m after : Machine} {interrupts : Bool} (space : Space) (stepCount : Nat) (symbols : Table Int)
      (rest : Conduct { m with space, stepCount, symbols } interrupts after) : Conduct m interrupts after
  | stop {m after : Machine} {interrupts : Bool} (rest : Conduct m.stop interrupts after) : Conduct m true after
  | run {m after : Machine} {interrupts : Bool} {τ : Type} {observe : Observer τ} {start budget : Option Int} {memo : τ}
      {patience : Nat} {r : Run τ} (returns : m.run start budget observe memo patience = some r)
      (rest : Conduct r.machine interrupts after) : Conduct m true after

/-- The machine that a run leaves behind is not running. -/
theorem Machine.running_of_run {m : Machine} {start budget : Option Int} {observe : Observer σ} {memo : σ} {patience : Nat}
    {r : Run σ} (returns : m.run start budget observe memo patience = some r) : r.machine.running = false := by
  obtain ⟨k, -, -, e, -, rfl⟩ := cycle_eq_some_iff.1 returns
  cases e <;> rfl

/-- An observer leaves the flag set exactly if it was set and the observer did not interrupt the run. -/
theorem Conduct.running_eq {m after : Machine} {interrupts : Bool} (h : Conduct m interrupts after) :
    after.running = (m.running && !interrupts) := by
  induction h with
  | done m => exact (Bool.and_true _).symm
  | change space stepCount symbols rest ih => exact ih
  | stop rest ih => rw [ih, Machine.stop, Bool.false_and, Bool.not_true, Bool.and_false]
  | run returns rest ih => rw [ih, Machine.running_of_run returns, Bool.false_and, Bool.not_true, Bool.and_false]

/-- An observer, with an account of the calls on which it interrupts the run. -/
structure Callback (σ : Type) where
  observe : Observer σ
  interrupts : σ → Machine → Bool
  conduct : ∀ memo m, Conduct m (interrupts memo m) (observe memo m).machine

/-- The same observer, which also counts how often it is polled. -/
def Observer.counted (observe : Observer σ) : Observer (σ × Nat) := fun (memo, calls) m =>
  let p := observe memo m
  ⟨(p.memo, calls + 1), p.machine, p.cancel⟩

/-- The conditions on which a run can be cancelled or disturbed are such observers. -/
def Condition.callback (patience : Nat) (c : Condition) : Callback Nat where
  observe := c.observer patience
  interrupts polls m :=
    match c with
    | .stopAt n => decide (n = polls + 1)
    | .runAt n budget => decide (n = polls + 1) && (m.run none budget .idle () patience).isSome
    | _ => false
  conduct polls m := by
    cases c with
    | poll n => exact .done m
    | count n => exact .done m
    | holds l value => exact .done m
    | stopAt n =>
      by_cases h : n = polls + 1
      · simpa [observer, h] using Conduct.stop (.done m.stop)
      · simpa [observer, h] using Conduct.done m
    | runAt n budget =>
      by_cases h : n = polls + 1
      · cases hr : m.run none budget .idle () patience with
        | none => simpa [observer, h, hr] using Conduct.done m
        | some r => simpa [observer, h, hr] using Conduct.run hr (.done r.machine)
      · simpa [observer, h] using Conduct.done m

namespace Callback

variable (c : Callback σ)

/-! ### Polls of a machine that is running -/

/-- Whether a call cancels the run, by the answer or by an interruption. -/
def cancels (memo : σ) (m : Machine) : Bool := (c.observe memo m).cancel || c.interrupts memo m

theorem ending?_observe {m : Machine} (running : m.running = true) (memo : σ) (budget : Option Int) (steps : Nat) :
    (c.observe memo m).ending? budget steps =
      if c.cancels memo m then some .cancelled
      else if Machine.exhausts steps budget then some .stepLimit
      else (c.observe memo m).machine.fault?.map .fault := by
  have flag : (!(c.observe memo m).machine.running) = c.interrupts memo m := by
    rw [(c.conduct memo m).running_eq, running, Bool.true_and, Bool.not_not]
  rw [Poll.ending?, flag]
  rfl

/-! ### The polls of a run -/

/-- Whether a call after a number of completed steps cancels the run. -/
def cancelsAt (memo : σ) (m : Machine) (k : Nat) : Bool :=
  c.cancels (Machine.arrival c.observe memo m k).1 (Machine.arrival c.observe memo m k).2

/-- A run goes on after a poll: the observer does not cancel it, the budget allows one more step, and that step
completes. -/
structure GoesOn (budget : Option Int) (memo : σ) (m : Machine) (k : Nat) : Prop where
  not_cancelled : c.cancelsAt memo m k = false
  in_budget : Machine.exhausts k budget = false
  completes : ∃ shown, (Machine.pollAt c.observe memo m k).machine.step.2 = .ok shown

variable {c} {budget : Option Int} {memo : σ} {m : Machine}

theorem ending?_pollAt (running : m.running = true) {k : Nat}
    (goesOn : ∀ j < k, (Machine.pollAt c.observe memo m j).ending? budget j = none) :
    (Machine.pollAt c.observe memo m k).ending? budget k =
      if c.cancelsAt memo m k then some .cancelled
      else if Machine.exhausts k budget then some .stepLimit
      else (Machine.pollAt c.observe memo m k).machine.fault?.map .fault :=
  c.ending?_observe (Machine.running_arrival running goesOn) _ budget k

theorem goesOn_iff_of_earlier (running : m.running = true) {k : Nat}
    (earlier : ∀ j < k, (Machine.pollAt c.observe memo m j).ending? budget j = none) :
    (Machine.pollAt c.observe memo m k).ending? budget k = none ↔ c.GoesOn budget memo m k := by
  rw [ending?_pollAt running earlier]
  constructor
  · intro h
    split at h
    · cases h
    · next cancelled =>
      split at h
      · cases h
      · next exhausted =>
        have completes := Option.map_eq_none_iff.1 h
        exact ⟨Bool.eq_false_iff.2 cancelled, Bool.eq_false_iff.2 exhausted, _,
          (Machine.step_eq_ok_iff _).2 ⟨completes, rfl⟩⟩
  · rintro ⟨cancelled, exhausted, shown, hshown⟩
    rw [cancelled, exhausted, ((Machine.step_eq_ok_iff _).1 hshown).1]
    rfl

/-- The polls after which a run goes on, from the first one on. -/
theorem forall_goesOn_iff (running : m.running = true) (k : Nat) :
    (∀ j < k, (Machine.pollAt c.observe memo m j).ending? budget j = none) ↔ ∀ j < k, c.GoesOn budget memo m j := by
  induction k with
  | zero => exact ⟨fun _ j hj => absurd hj (Nat.not_lt_zero j), fun _ j hj => absurd hj (Nat.not_lt_zero j)⟩
  | succ k ih =>
    constructor
    · intro h j hj
      exact (goesOn_iff_of_earlier running fun i hi => h i (Nat.lt_trans hi hj)).1 (h j hj)
    · intro h
      have earlier := ih.2 fun j hj => h j (Nat.lt_succ_of_lt hj)
      intro j hj
      rcases Nat.lt_succ_iff_lt_or_eq.1 hj with hj | rfl
      · exact earlier j hj
      · exact (goesOn_iff_of_earlier running earlier).2 (h j hj)

/-- A budget is used up at some poll. -/
theorem exists_first_not_goesOn {n : Int} :
    ∃ k, (∀ j < k, c.GoesOn (some n) memo m j) ∧ ¬ c.GoesOn (some n) memo m k := by
  have last : ¬ c.GoesOn (some n) memo m n.toNat := fun h => by
    have used : Machine.exhausts n.toNat (some n) = true := Machine.exhausts_some_iff.2 (Int.self_le_toNat n)
    rw [h.in_budget] at used
    cases used
  classical
  have some_end : ∃ k, ¬ c.GoesOn (some n) memo m k := ⟨_, last⟩
  exact ⟨Nat.find some_end, fun j hj => not_not.1 (Nat.find_min some_end hj), Nat.find_spec some_end⟩

/-- A poll that a run gets to is one that its budget and its patience allow. -/
theorem lt_pollBound {patience k : Nat} (patient : budget = none → k < patience)
    (goesOn : ∀ j < k, c.GoesOn budget memo m j) : k < Machine.pollBound budget patience := by
  cases budget with
  | none => exact patient rfl
  | some n =>
    by_contra beyond
    have inRun : n.toNat < k := Nat.le_of_not_lt beyond
    have unused := (goesOn n.toNat inRun).in_budget
    rw [Machine.exhausts_some_iff.2 (Int.self_le_toNat n)] at unused
    cases unused

end Callback

namespace Machine

/-! ### Endings -/

/-- An ending by the order in which the conditions are looked at. -/
theorem ending_iff {cancelled exhausted : Bool} {fault : Option Fault} {e : Ending}
    (h : (if cancelled then some .cancelled else if exhausted then some .stepLimit else fault.map Ending.fault) = some e) :
    (e = .cancelled ↔ cancelled) ∧ (e = .stepLimit ↔ ¬ cancelled ∧ exhausted) ∧
      ∀ f, e = .fault f ↔ ¬ cancelled ∧ ¬ exhausted ∧ fault = some f := by
  cases cancelled with
  | true =>
    cases h
    simp
  | false =>
    cases exhausted with
    | true =>
      cases h
      simp
    | false =>
      cases fault with
      | none => cases h
      | some f =>
        cases h
        simp

theorem cycle_counted (observe : Observer σ) (budget : Option Int) (patience steps : Nat) (memo : σ) (m : Machine) :
    cycle observe.counted budget patience steps (memo, steps) m =
      (cycle observe budget patience steps memo m).map fun r => ⟨r.result, r.machine, (r.memo, r.result.steps + 1)⟩ := by
  induction patience generalizing steps memo m with
  | zero => rfl
  | succ patience ih =>
    have ending : (observe.counted (memo, steps) m).ending? budget steps = (observe memo m).ending? budget steps := rfl
    cases h : (observe memo m).ending? budget steps with
    | some e =>
      rw [cycle_of_ending (ending.trans h), cycle_of_ending h]
      cases e <;> rfl
    | none =>
      rw [cycle_of_goes_on (ending.trans h), cycle_of_goes_on h]
      exact ih (steps + 1) _ _

/-- **When a run is cancelled.** Let `k` be the number of steps completed before a poll. A run that has ended went on
after every poll but its last. It was cancelled exactly if the observer cancelled it at the last poll, by its answer, by
stopping the machine or by a run of its own; if not, the budget decides, and after that the fault of the next step. It
reports the program counter that the last poll left, and unless there was a fault it made no step after that poll. A
run ends at the first poll after which it does not go on, if its patience lasts, and there is one if it has a budget.
The observer is polled once more than steps are completed. Stopping the machine before a run has no effect on the
run. -/
theorem run_cancellation (m : Machine) (start budget : Option Int) (c : Callback σ) (memo : σ) (patience : Nat) :
    let begun := m.launch start
    let run := m.run start budget c.observe memo patience
    (∀ r, run = some r →
      let k := r.result.steps
      let p := pollAt c.observe memo begun k
      (∀ j < k, c.GoesOn budget memo begun j) ∧
      (r.result.ending = .cancelled ↔ c.cancelsAt memo begun k) ∧
      (r.result.ending = .stepLimit ↔ ¬ c.cancelsAt memo begun k ∧ exhausts k budget) ∧
      (∀ f, r.result.ending = .fault f ↔
        ¬ c.cancelsAt memo begun k ∧ ¬ exhausts k budget ∧ p.machine.step.2 = .error f) ∧
      r.result.pc = p.machine.space.registers.pc ∧ r.memo = p.memo ∧
      (r.result.ending = .cancelled ∨ r.result.ending = .stepLimit → r.machine = p.machine.stop) ∧
      (∀ f, r.result.ending = .fault f → r.machine = p.machine.step.1.stop)) ∧
    (∀ k, (budget = none → k < patience) → (∀ j < k, c.GoesOn budget memo begun j) → ¬ c.GoesOn budget memo begun k →
      ∃ r, run = some r ∧ r.result.steps = k) ∧
    (∀ n, budget = some n → ∃ r, run = some r) ∧
    m.run start budget c.observe.counted (memo, 0) patience =
      run.map (fun r => ⟨r.result, r.machine, (r.memo, r.result.steps + 1)⟩) ∧
    m.stop.run start budget c.observe memo patience = run := by
  intro begun run
  have running : begun.running = true := rfl
  have ends (k : Nat) (patient : budget = none → k < patience) (goesOn : ∀ j < k, c.GoesOn budget memo begun j)
      (last : ¬ c.GoesOn budget memo begun k) : ∃ r, run = some r ∧ r.result.steps = k := by
    have earlier := (Callback.forall_goesOn_iff running k).2 goesOn
    have ending := mt (Callback.goesOn_iff_of_earlier running earlier).1 last
    obtain ⟨e, he⟩ := Option.ne_none_iff_exists'.1 ending
    exact ⟨_, cycle_eq_some_iff.2 ⟨k, Callback.lt_pollBound patient goesOn, earlier, e, he, rfl⟩, rfl⟩
  refine ⟨?_, ends, ?_, cycle_counted c.observe budget _ 0 memo begun, ?_⟩
  · intro r returns
    obtain ⟨k, -, earlier, e, he, rfl⟩ := cycle_eq_some_iff.1 returns
    have he' := he
    rw [Callback.ending?_pollAt running earlier] at he'
    obtain ⟨cancelled, stepLimit, fault⟩ := ending_iff he'
    refine ⟨(Callback.forall_goesOn_iff running k).1 earlier, cancelled, stepLimit, fun f => ?_, rfl, rfl, ?_, ?_⟩
    · rw [step_eq_error_iff]
      exact fault f
    · rintro (h | h)
      · cases h
        rfl
      · cases h
        rfl
    · intro f h
      cases h
      rfl
  · rintro n rfl
    obtain ⟨k, goesOn, last⟩ : ∃ k, (∀ j < k, c.GoesOn (some n) memo begun j) ∧ ¬ c.GoesOn (some n) memo begun k :=
      Callback.exists_first_not_goesOn
    obtain ⟨r, returns, -⟩ := ends k (fun h => by cases h) goesOn last
    exact ⟨r, returns⟩
  · show cycle c.observe budget _ 0 memo (m.stop.launch start) = _
    rw [launch_stop]
    rfl

/-- The observer makes a run of three steps when it is polled for the second time, which is also when the budget of one
step is used up. -/
theorem run_cancellation_nested :
    let c := (Condition.runAt 2 (some 3)).callback 0
    let m : Machine := {}
    ∃ r, m.run none (some 1) c.observe 0 0 = some r ∧ r.result = ⟨.cancelled, 1, 4⟩ ∧
      c.cancelsAt 0 (m.launch none) 1 ∧ c.GoesOn (some 1) 0 (m.launch none) 0 ∧
      (m.run none (some 1) c.observe.counted (0, 0) 0).map (fun s => s.memo.2) = some 2 := by
  intro c m
  obtain ⟨reports, -, returns, counted, -⟩ := m.run_cancellation none (some 1) c 0 0
  obtain ⟨r, hr⟩ := returns 1 rfl
  have result : (m.run none (some 1) c.observe 0 0).map Run.result = some ⟨.cancelled, 1, 4⟩ := by decide
  rw [hr, Option.map_some, Option.some.injEq] at result
  obtain ⟨earlier, cancelled, -⟩ := reports r hr
  rw [result] at earlier cancelled
  refine ⟨r, hr, result, cancelled.1 rfl, earlier 0 (by decide), ?_⟩
  rw [counted, hr]
  show some (r.result.steps + 1) = some 2
  rw [result]

end Machine

end Dcpu16
