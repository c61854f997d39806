import Dcpu16.Machine

/-!
Running a machine. A run sets the stack pointer to zero, and the program counter if a start is given, and then
steps until it is cancelled, has used up its budget of steps or meets a fault. Before every step it polls an
observer, which may change the machine, stop the run or make a complete run of its own; a cancellation found
by a poll wins over a budget that is used up at the same time. The machine has no instruction that halts, so a
run without a budget may go on forever. Its patience bounds the number of polls, and a run that outlasts its
patience has no result.
-/

namespace Dcpu16

/-! ### Observers -/

/-- What an observer leaves behind: its own memory, the machine, and whether the run is to be cancelled. -/
structure Poll (σ : Type) where
  memo : σ
  machine : Machine
  cancel : Bool

/-- An observer is polled before every step. -/
abbrev Observer (σ : Type) := σ → Machine → Poll σ

/-- The observer that lets a run go on. -/
def Observer.idle {σ : Type} : Observer σ := fun memo m => ⟨memo, m, false⟩

/-! ### Results -/

/-- Why a run ended. -/
inductive Ending where
  | fault (f : Fault)
  | cancelled
  | stepLimit
  deriving DecidableEq, Repr

/-- What a run reports: why it ended, how many steps it completed, and where the program counter was, which
after a fault is the address of the instruction at fault. -/
structure RunResult where
  ending : Ending
  steps : Nat
  pc : Word
  deriving DecidableEq, Repr

/-- A run that has ended. -/
structure Run (σ : Type) where
  result : RunResult
  machine : Machine
  memo : σ

namespace Machine

variable {σ : Type}

/-! ### The cycle -/

/-- The machine at the start of a run. -/
def launch (m : Machine) (start : Option Int) : Machine :=
  let m := m.write (.register .SP) 0
  let m :=
    match start with
    | none => m
    | some address => m.write (.register .PC) address
  { m with running := true }

/-- Whether a number of steps uses up a budget. -/
def exhausts (steps : Nat) (budget : Option Int) : Bool := budget.any (· ≤ (steps : Int))

/-- Polls and steps until the run ends, at most as often as the patience allows. -/
def cycle (observe : Observer σ) (budget : Option Int) : Nat → Nat → σ → Machine → Option (Run σ)
  | 0, _, _, _ => none
  | patience + 1, steps, memo, m =>
    let ⟨memo, m, cancel⟩ := observe memo m
    let pc := m.space.registers.pc
    if cancel || !m.running then some ⟨⟨.cancelled, steps, pc⟩, m.stop, memo⟩
    else if exhausts steps budget then some ⟨⟨.stepLimit, steps, pc⟩, m.stop, memo⟩
    else
      match m.step with
      | (m, .error fault) => some ⟨⟨.fault fault, steps, pc⟩, m.stop, memo⟩
      | (m, .ok _) => cycle observe budget patience (steps + 1) memo m

/-- The polls that a run can make: one more than its budget, or as many as the patience allows if it has none. -/
def pollBound (budget : Option Int) (patience : Nat) : Nat :=
  match budget with
  | none => patience
  | some steps => steps.toNat + 1

/-- Runs a machine. Patience only counts for a run without a budget. -/
def run (m : Machine) (start budget : Option Int) (observe : Observer σ) (memo : σ) (patience : Nat) :
    Option (Run σ) :=
  cycle observe budget (pollBound budget patience) 0 memo (m.launch start)

end Machine

/-! ### Conditions -/

/-- A condition on which a run is cancelled or disturbed. Polls are counted from one. -/
inductive Condition where
  /-- Cancel from a poll on. -/
  | poll (n : Int)
  /-- Cancel when the machine has completed a number of instructions. -/
  | count (n : Int)
  /-- Cancel when a location holds a value. -/
  | holds (l : Location) (value : Int)
  /-- Stop the machine at a poll, but never cancel. -/
  | stopAt (n : Int)
  /-- Make a complete run with a budget at a poll, but never cancel. -/
  | runAt (n : Int) (budget : Option Int)
  deriving DecidableEq, Repr

/-- The observer that acts on a condition and remembers how often it was polled. -/
def Condition.observer (patience : Nat) : Condition → Observer Nat
  | poll n => fun polls m => ⟨polls + 1, m, decide (n ≤ polls + 1)⟩
  | count n => fun polls m => ⟨polls + 1, m, decide (n ≤ m.stepCount)⟩
  | holds l value => fun polls m => ⟨polls + 1, m, (m.space.inspect l).address == value⟩
  | stopAt n => fun polls m => ⟨polls + 1, if n = polls + 1 then m.stop else m, false⟩
  | runAt n budget => fun polls m =>
    let m :=
      if n = polls + 1 then
        match m.run none budget .idle () patience with
        | some r => r.machine
        | none => m
      else m
    ⟨polls + 1, m, false⟩

/-- The observer for a condition that may be missing. -/
def Condition.observer? (patience : Nat) : Option Condition → Observer Nat
  | none => .idle
  | some c => c.observer patience

end Dcpu16
