import Dcpu16.Proofs.Cycle
import Dcpu16.Session

/-!
What commands keep. All that a command does to a space is to set registers, to empty the log, to read, store or load single
cells, and to do so again. A property that each of these keeps is therefore kept by everything made of them: by routines,
steps and runs, and in the end by every command, whether it succeeds or fails (`Space.Kept.apply`). For a run this holds if
its observer keeps the property too, and then only machines that have it are ever shown to the observer
(`Machine.cycle_congr`).
-/

namespace Dcpu16

/-- A property of spaces that is kept by everything that commands are made of. -/
structure Space.Kept (P : Space → Prop) : Prop where
  registers : ∀ {s}, P s → ∀ registers, P { s with registers }
  clearLog : ∀ {s}, P s → P s.clearLog
  touch : ∀ {s}, P s → ∀ address, P (s.touch (.cell address))
  store : ∀ {s}, P s → ∀ address w, P (s.store (.cell address) w)
  load : ∀ {s}, P s → ∀ address value, P (s.load address value)

/-! ### Runs -/

namespace Machine

variable {σ : Type} {P : Machine → Prop} {observe : Observer σ}

/-- What holds when a run is launched and is kept by its observer, by the step and by stopping holds when it has ended. -/
theorem run_keeps {m : Machine} {start budget : Option Int} {memo : σ} {patience : Nat} {r : Run σ}
    (returns : m.run start budget observe memo patience = some r) (launched : P (m.launch start))
    (observed : ∀ memo m, P m → P (observe memo m).machine) (stepped : ∀ m, P m → P m.step.1)
    (stopped : ∀ m, P m → P m.stop) : P r.machine := by
  have arrived (k : Nat) : P (arrival observe memo (m.launch start) k).2 := by
    induction k with
    | zero => exact launched
    | succ k ih => exact stepped _ (observed _ _ ih)
  obtain ⟨k, -, -, e, -, rfl⟩ := cycle_eq_some_iff.1 returns
  have polled : P (pollAt observe memo (m.launch start) k).machine := observed _ _ (arrived k)
  cases e with
  | fault f => exact stopped _ (stepped _ polled)
  | cancelled => exact stopped _ polled
  | stepLimit => exact stopped _ polled

/-- Observers that do the same with all machines that a run can show them make the same run. -/
theorem cycle_congr {observe' : Observer σ} (agree : ∀ memo m, P m → observe' memo m = observe memo m)
    (observed : ∀ memo m, P m → P (observe memo m).machine) (stepped : ∀ m, P m → P m.step.1) (budget : Option Int)
    (patience steps : Nat) (memo : σ) {m : Machine} (h : P m) :
    cycle observe' budget patience steps memo m = cycle observe budget patience steps memo m := by
  induction patience generalizing steps memo m with
  | zero => rfl
  | succ patience ih =>
    rw [cycle_succ, cycle_succ, agree memo m h]
    split
    · rfl
    · exact ih _ _ (stepped _ (observed memo m h))

end Machine

namespace Space.Kept

variable {P : Space → Prop} (kept : Kept P)

include kept

/-! ### Spaces -/

section Space

variable {s : Space} (h : P s)

include h

theorem touchAt (l : Location) : P (s.touch l) := by
  cases l with
  | cell address => exact kept.touch h address
  | register r => exact h

theorem storeAt (l : Location) (w : Word) : P (s.store l w) := by
  cases l with
  | cell address => exact kept.store h address w
  | register r => exact kept.registers h _

theorem loadPairs (pairs : List (Int × Int)) : P (s.loadPairs pairs) := by
  induction pairs generalizing s with
  | nil => exact h
  | cons pair pairs ih => exact ih (kept.load h pair.1 pair.2)

theorem pokeRegisters (values : List (Text × Int)) : P (Session.pokeRegisters s values).1 := by
  induction values generalizing s with
  | nil => exact h
  | cons value values ih =>
    obtain ⟨name, value⟩ := value
    rw [Session.pokeRegisters]
    split
    · exact h
    · exact ih (kept.storeAt h _ _)

/-- Instructions are made of single accesses. -/
theorem routine {α : Type} {f : Space → α × Space} (hf : Routine f) : P (f s).2 := by
  induction hf generalizing s with
  | pure a => exact h
  | registers => exact h
  | @read address _ => exact kept.touch h address
  | @store address _ w => exact kept.store h address w
  | set r w => exact kept.registers h _
  | bind hf hg ihf ihg => exact ihg _ (ihf h)

theorem resolveField {field : Int} {o : Operand} {t : Space} (ht : s.resolveField field = .ok (o, t)) : P t := by
  rw [Space.resolveField] at ht
  split at ht
  · cases ht
  · split at ht
    · cases ht
    next m _ =>
      obtain rfl : (s.resolve m).2 = t := congrArg Prod.snd (Except.ok.inj ht)
      exact kept.routine h (Routine.resolve m)

end Space

/-! ### Machines -/

section Machine

variable {m : Machine} (h : P m.space)

include h

theorem step : P m.step.1.space := by
  have turned : P m.turned := kept.routine (kept.clearLog h) Routine.turn
  cases hf : m.fault? with
  | none =>
    rw [m.step_of_completes hf]
    exact kept.clearLog turned
  | some f =>
    rw [m.step_of_fault hf]
    exact turned

theorem launch (start : Option Int) : P (m.launch start).space := by
  rw [Machine.launch_eq]
  exact kept.registers h _

theorem run {σ : Type} {start budget : Option Int} {observe : Observer σ} {memo : σ} {patience : Nat} {r : Run σ}
    (returns : m.run start budget observe memo patience = some r)
    (observed : ∀ memo (m : Machine), P m.space → P (observe memo m).machine.space) : P r.machine.space :=
  Machine.run_keeps (P := fun m => P m.space) returns (kept.launch h start) observed (fun _ hm => kept.step hm)
    fun _ hm => hm

theorem observer (patience : Nat) (c : Option Condition) (polls : Nat) :
    P (Condition.observer? patience c polls m).machine.space := by
  cases c with
  | none => exact h
  | some c =>
    cases c with
    | poll n => exact h
    | count n => exact h
    | holds l value => exact h
    | stopAt n =>
      by_cases hn : n = polls + 1
      · have stopped : P m.stop.space := h
        simpa [Condition.observer?, Condition.observer, hn] using stopped
      · simpa [Condition.observer?, Condition.observer, hn] using h
    | runAt n budget =>
      by_cases hn : n = polls + 1
      · cases hr : m.run none budget .idle () patience with
        | none => simpa [Condition.observer?, Condition.observer, hn, hr] using h
        | some r =>
          have nested : P r.machine.space := kept.run h hr fun _ _ hm => hm
          simpa [Condition.observer?, Condition.observer, hn, hr] using nested
      · simpa [Condition.observer?, Condition.observer, hn] using h

end Machine

/-! ### Commands -/

section Command

variable {s : Session} (h : P s.machine.space)

include h

omit kept in
theorem atPlace (place : Place) {act : Location → Session × Reply} (acts : ∀ l, P (act l).1.machine.space) :
    P (s.atPlace place act).1.machine.space := by
  rw [Session.atPlace]
  split
  · exact h
  · exact acts _

/-- **What every part of a command keeps is kept by the command**, whether it succeeds or fails. -/
theorem apply (c : Command) : P (s.apply c).1.machine.space := by
  cases c with
  | read place => exact atPlace h place fun l => kept.touchAt h l
  | inspect place => exact atPlace h place fun _ => h
  | write place value => exact atPlace h place fun l => kept.storeAt h l _
  | increment place => exact atPlace h place fun l => kept.storeAt (kept.touchAt h l) l _
  | decrement place => exact atPlace h place fun l => kept.storeAt (kept.touchAt h l) l _
  | dereference place =>
    exact atPlace h place fun l => kept.touch (kept.touchAt h l) (s.machine.space.inspect l).address
  | pop => exact kept.routine h Routine.pop
  | peek => exact kept.routine h (Routine.dereference .SP)
  | push => exact kept.routine h Routine.push
  | pushValue value => exact kept.routine h (Routine.pushValue value)
  | load address value => exact kept.load h address value
  | loadPairs pairs => exact kept.loadPairs h pairs
  | loadWords words origin =>
    simp only [Session.apply, Space.loadCounted_eq]
    exact kept.loadPairs h _
  | loadImage text origin =>
    simp only [Session.apply]
    split
    · exact h
    · exact kept.loadPairs h _
  | log => exact kept.clearLog h
  | poke registers cells =>
    have poked := kept.pokeRegisters h registers
    simp only [Session.apply]
    split
    next space e heq =>
      rw [heq] at poked
      exact poked
    next space heq =>
      rw [heq] at poked
      exact kept.loadPairs poked cells
  | resolve field =>
    simp only [Session.apply]
    split
    · exact h
    next heq => exact kept.resolveField h heq
  | execute word =>
    have executed : P (s.machine.space.execute word).1 := kept.routine h (Routine.execute word)
    simp only [Session.apply]
    split
    next heq =>
      rw [heq] at executed
      exact executed
    next heq =>
      rw [heq] at executed
      exact executed
  | step =>
    have stepped := kept.step h
    simp only [Session.apply]
    split
    next heq =>
      rw [heq] at stepped
      exact stepped
    next heq =>
      rw [heq] at stepped
      exact stepped
  | run start budget watch =>
    simp only [Session.apply]
    split
    · exact kept.launch h start
    · split
      · exact h
      next hr => exact kept.run h hr fun polls m hm => kept.observer hm _ _ polls
  | reset start => exact kept.registers h _
  | restore slot =>
    simp only [Session.apply]
    split
    · exact h
    · exact kept.registers h _
  | restoreRegisters values => exact kept.registers h _
  | restoreBase pc sp => exact kept.registers (kept.registers h _) _
  | memory | stop | stepCount | registers | save _ | setSymbols _ | symbols | layout | listing _ _ | operation _ =>
    exact h

end Command

end Space.Kept

end Dcpu16
