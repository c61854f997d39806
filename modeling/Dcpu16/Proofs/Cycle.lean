import Dcpu16.Proofs.Trace
import Dcpu16.Run
import Mathlib.Data.Nat.Find

/-!
One cycle of a run. A poll leaves the memory of the observer and a machine behind, and whether the run ends there is
settled by a cancellation, by the budget and by the step that would follow, in this order (`Poll.ending?`). A run that
does not end goes on with the machine after that step (`cycle_succ`). The machine that a run leaves behind is not
running, and a machine that was stopped before is launched like any other.
-/

namespace Dcpu16

variable {σ : Type}

/-! ### Polls -/

namespace Poll

variable (p : Poll σ)

/-- How a run ends at a poll after a number of completed steps, if it does. -/
def ending? (budget : Option Int) (steps : Nat) : Option Ending :=
  if p.cancel || !p.machine.running then some .cancelled
  else if Machine.exhausts steps budget then some .stepLimit
  else p.machine.fault?.map .fault

/-- The machine that a run leaves behind when it ends at a poll. Only a fault comes from one more step. -/
def left : Ending → Machine
  | .fault _ => p.machine.step.1.stop
  | _ => p.machine.stop

/-- The run that ends at a poll. -/
def conclude (steps : Nat) (e : Ending) : Run σ := ⟨⟨e, steps, p.machine.space.registers.pc⟩, p.left e, p.memo⟩

end Poll

/-! ### Cycles -/

namespace Machine

theorem exhausts_some_iff {steps : Nat} {n : Int} : exhausts steps (some n) = true ↔ n ≤ steps := by
  simp [exhausts]

theorem cycle_succ (observe : Observer σ) (budget : Option Int) (patience steps : Nat) (memo : σ) (m : Machine) :
    cycle observe budget (patience + 1) steps memo m =
      match (observe memo m).ending? budget steps with
      | some e => some ((observe memo m).conclude steps e)
      | none => cycle observe budget patience (steps + 1) (observe memo m).memo (observe memo m).machine.step.1 := by
  rw [cycle]
  generalize observe memo m = p
  unfold Poll.ending?
  by_cases cancelled : (p.cancel || !p.machine.running) = true
  · simp only [cancelled, if_true]
    rfl
  · by_cases exhausted : exhausts steps budget = true
    · simp only [cancelled, exhausted, if_true]
      rfl
    · simp only [cancelled, exhausted]
      cases h : p.machine.fault? with
      | none => rw [p.machine.step_of_completes h]; rfl
      | some f =>
        rw [p.machine.step_of_fault h]
        simp only [Bool.false_eq_true, if_false, Option.map_some, Poll.conclude, Poll.left, p.machine.step_of_fault h]

theorem cycle_of_ending {observe : Observer σ} {budget : Option Int} {steps : Nat} {memo : σ} {m : Machine} {e : Ending}
    (h : (observe memo m).ending? budget steps = some e) (patience : Nat) :
    cycle observe budget (patience + 1) steps memo m = some ((observe memo m).conclude steps e) := by
  rw [cycle_succ, h]

theorem cycle_of_goes_on {observe : Observer σ} {budget : Option Int} {steps : Nat} {memo : σ} {m : Machine}
    (h : (observe memo m).ending? budget steps = none) (patience : Nat) :
    cycle observe budget (patience + 1) steps memo m =
      cycle observe budget patience (steps + 1) (observe memo m).memo (observe memo m).machine.step.1 := by
  rw [cycle_succ, h]

/-! ### Many cycles -/

/-- What the observer remembers and the machine it is given when a run polls after a number of completed steps, if the
run gets that far. A step lies between two polls. -/
def arrival (observe : Observer σ) (memo : σ) (m : Machine) : Nat → σ × Machine
  | 0 => (memo, m)
  | k + 1 =>
    let (memo, m) := arrival observe memo m k
    let p := observe memo m
    (p.memo, p.machine.step.1)

/-- The poll that a run makes after a number of completed steps, if the run gets that far. -/
def pollAt (observe : Observer σ) (memo : σ) (m : Machine) (k : Nat) : Poll σ :=
  let (memo, m) := arrival observe memo m k
  observe memo m

section Many

variable {observe : Observer σ} {budget : Option Int} {memo : σ} {m : Machine}

theorem arrival_succ (k : Nat) :
    arrival observe memo m (k + 1) = ((pollAt observe memo m k).memo, (pollAt observe memo m k).machine.step.1) := rfl

/-- A machine that is running is running at every poll that a run gets to. -/
theorem running_arrival (running : m.running = true) {k : Nat}
    (goesOn : ∀ j < k, (pollAt observe memo m j).ending? budget j = none) :
    (arrival observe memo m k).2.running = true := by
  cases k with
  | zero => exact running
  | succ k =>
    have last := goesOn k (Nat.lt_succ_self k)
    rw [arrival_succ, running_step]
    unfold Poll.ending? at last
    split at last
    next => cases last
    next h =>
      rw [Bool.or_eq_true, not_or, Bool.not_eq_true', Bool.not_eq_false] at h
      exact h.2

theorem cycle_of_all_go_on {k : Nat} (goesOn : ∀ j < k, (pollAt observe memo m j).ending? budget j = none)
    (patience : Nat) :
    cycle observe budget (patience + k) 0 memo m =
      cycle observe budget patience k (arrival observe memo m k).1 (arrival observe memo m k).2 := by
  induction k generalizing patience with
  | zero => rfl
  | succ k ih =>
    have earlier := ih (fun j hj => goesOn j (Nat.lt_succ_of_lt hj)) (patience + 1)
    rw [Nat.add_right_comm] at earlier
    rw [← Nat.add_assoc, earlier]
    exact cycle_of_goes_on (goesOn k (Nat.lt_succ_self k)) patience

/-- **A run ends at the first poll at which it does not go on**, if its patience lasts that long. -/
theorem cycle_eq_some_iff {patience : Nat} {r : Run σ} :
    cycle observe budget patience 0 memo m = some r ↔
      ∃ k < patience, (∀ j < k, (pollAt observe memo m j).ending? budget j = none) ∧
        ∃ e, (pollAt observe memo m k).ending? budget k = some e ∧ r = (pollAt observe memo m k).conclude k e := by
  have ends {k : Nat} (hk : k < patience) (goesOn : ∀ j < k, (pollAt observe memo m j).ending? budget j = none)
      {e : Ending} (he : (pollAt observe memo m k).ending? budget k = some e) :
      cycle observe budget patience 0 memo m = some ((pollAt observe memo m k).conclude k e) := by
    have split : patience = patience - k - 1 + 1 + k := by omega
    rw [split, cycle_of_all_go_on goesOn]
    exact cycle_of_ending he _
  constructor
  · intro h
    by_cases all : ∀ j < patience, (pollAt observe memo m j).ending? budget j = none
    · have exhausted := cycle_of_all_go_on all 0
      rw [Nat.zero_add, h] at exhausted
      cases exhausted
    · -- the first of the polls at which the run does not go on
      have some_end : ∃ k, k < patience ∧ (pollAt observe memo m k).ending? budget k ≠ none := by
        push Not at all
        exact all
      classical
      obtain ⟨hk, hend⟩ := Nat.find_spec some_end
      have first : ∀ j < Nat.find some_end, (pollAt observe memo m j).ending? budget j = none := by
        intro j hj
        by_contra hne
        exact Nat.find_min some_end hj ⟨Nat.lt_trans hj hk, hne⟩
      obtain ⟨e, he⟩ := Option.ne_none_iff_exists'.1 hend
      refine ⟨_, hk, first, e, he, ?_⟩
      rw [ends hk first he] at h
      exact (Option.some.inj h).symm
  · rintro ⟨k, hk, goesOn, e, he, rfl⟩
    exact ends hk goesOn he

end Many

/-! ### Launching -/

/-- The machine with the stack pointer at zero, and the program counter at the start if there is one. -/
def started (m : Machine) (start : Option Int) : Machine :=
  { m with
    space.registers.sp := 0
    space.registers.pc := (start.map Word.ofInt).getD m.space.registers.pc }

theorem launch_eq (m : Machine) (start : Option Int) : m.launch start = { m.started start with running := true } := by
  cases start <;> rfl

theorem launch_stop (m : Machine) (start : Option Int) : m.stop.launch start = m.launch start := by
  cases start <;> rfl

end Machine

end Dcpu16
