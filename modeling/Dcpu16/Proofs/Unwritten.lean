import Dcpu16.Proofs.BoundedRun
import Dcpu16.Session

/-!
Cells that hold zero and cells that were never written. Memory keeps the difference, and a list of its cells shows it,
but reading does not. Two spaces that are read alike everywhere stay so under every single access, which finds the same
word in both and leaves the same record, a replaced word included; so they stay so under every routine
(`Routine.alike`), every step and every run, and a session that only steps and runs gives the same replies on both
(`replies_eq_of_alike`).
-/

namespace Dcpu16

/-! ### Spaces -/

/-- Two spaces with the same policy, registers and pending log, and the same word wherever a cell is read. -/
structure Space.Alike (s t : Space) : Prop where
  policy : t.policy = s.policy
  registers : t.registers = s.registers
  log : t.log = s.log
  cell : ∀ address, t.cell address = s.cell address

namespace Space.Alike

variable {s t : Space} (h : Alike s t)

include h

theorem readAt (address : Int) : t.readAt address = s.readAt address := by
  rw [Space.readAt, Space.readAt, h.policy, h.cell]

theorem inspect (l : Location) : t.inspect l = s.inspect l := by
  cases l with
  | cell address => exact h.cell address
  | register r =>
    show t.registers.get r = s.registers.get r
    rw [h.registers]

theorem clearLog : Alike s.clearLog t.clearLog := ⟨h.policy, h.registers, rfl, h.cell⟩

theorem touch (address : Int) : Alike (s.touch (.cell address)) (t.touch (.cell address)) where
  policy := h.policy
  registers := h.registers
  log := by
    show t.log ++ [t.readAt address] = s.log ++ [s.readAt address]
    rw [h.log, h.readAt]
  cell := h.cell

theorem set (r : Register) (w : Word) : Alike (s.store (.register r) w) (t.store (.register r) w) where
  policy := h.policy
  registers := by rw [registers_store_register, registers_store_register, h.registers]
  log := h.log
  cell := h.cell

theorem store (address : Int) (w : Word) : Alike (s.store (.cell address) w) (t.store (.cell address) w) where
  policy := h.policy
  registers := h.registers
  log := by simp only [Space.store, h.log, h.policy, h.cell]
  cell b := by
    have stored (u : Space) : (u.store (.cell address) w).cell b =
        if u.policy.normalize b = u.policy.normalize address then w else u.cell b :=
      cell_insert w u.cells _ _
    rw [stored, stored, h.policy, h.cell]

end Space.Alike

/-- **A routine cannot tell a cell that holds zero from one that was never written.** -/
theorem Routine.alike {α : Type} {f : Space → α × Space} (hf : Routine f) {s t : Space} (h : s.Alike t) :
    (f t).1 = (f s).1 ∧ (f s).2.Alike (f t).2 := by
  -- the spaces vary, since the second part of a routine starts where the first one left them
  induction hf generalizing s t with
  | pure a => exact ⟨rfl, h⟩
  | registers => exact ⟨h.registers, h⟩
  | @read address _ => exact ⟨h.cell address, h.touch address⟩
  | @store address _ w => exact ⟨rfl, h.store address w⟩
  | set r w => exact ⟨rfl, h.set r w⟩
  | @bind α β f g _ _ ihf ihg =>
    obtain ⟨result, after⟩ := ihf h
    show (g (f t).1 (f t).2).1 = _ ∧ Space.Alike _ (g (f t).1 (f t).2).2
    rw [result]
    exact ihg s after

/-! ### Machines -/

namespace Machine

/-- Two machines with the same count of steps and symbols whose spaces are alike. -/
structure Alike (m n : Machine) : Prop where
  space : m.space.Alike n.space
  stepCount : n.stepCount = m.stepCount
  symbols : n.symbols = m.symbols

namespace Alike

variable {m n : Machine} (h : Alike m n)

include h

theorem turn : n.fault? = m.fault? ∧ m.turned.Alike n.turned := Routine.turn.alike h.space.clearLog

theorem snapshot_eq : n.snapshot = m.snapshot := by
  obtain ⟨-, turned⟩ := h.turn
  have operation : n.space.operationAt m.space.registers.pc.address = m.space.operationAt m.space.registers.pc.address :=
    Space.operationAt_congr h.space.cell _
  have describes (address : Int) (op : Operation) : n.describe address op = m.describe address op := by
    rw [describe, label, h.symbols, describe, label]
  simp only [snapshot, h.space.registers, operation, describes, turned.registers, turned.log, h.stepCount]

theorem next : Alike m.next n.next where
  space := h.turn.2.clearLog
  stepCount := congrArg (· + 1) h.stepCount
  symbols := h.symbols

theorem afterFault : Alike { m with space := m.turned } { n with space := n.turned } where
  space := h.turn.2
  stepCount := h.stepCount
  symbols := h.symbols

theorem started (start : Option Int) : Alike (m.started start) (n.started start) where
  space := by
    refine ⟨h.space.policy, ?_, h.space.log, h.space.cell⟩
    simp only [Machine.started, h.space.registers]
  stepCount := h.stepCount
  symbols := h.symbols

theorem stop : Alike m.stop n.stop := ⟨h.space, h.stepCount, h.symbols⟩

end Alike

/-- Consecutive steps show the same on two machines that are alike, and leave them alike. -/
theorem trace_alike {m n : Machine} (h : Alike m n) (k : Nat) :
    (n.trace k).snapshots = (m.trace k).snapshots ∧ (n.trace k).fault = (m.trace k).fault ∧
      Alike (m.trace k).machine (n.trace k).machine := by
  induction k generalizing m n with
  | zero => exact ⟨rfl, rfl, h⟩
  | succ k ih =>
    have same := h.turn.1
    cases hf : m.fault? with
    | some f =>
      rw [trace_succ_of_fault k hf, trace_succ_of_fault k (same.trans hf)]
      exact ⟨rfl, rfl, h.afterFault⟩
    | none =>
      obtain ⟨snapshots, fault, after⟩ := ih h.next
      rw [trace_succ_of_completes k hf, trace_succ_of_completes k (same.trans hf)]
      refine ⟨?_, fault, after⟩
      show n.snapshot :: _ = m.snapshot :: _
      rw [h.snapshot_eq, snapshots]

/-- A run within a budget reports the same on two machines that are alike. -/
theorem result_toRun_alike {σ : Type} {m n : Machine} (h : Alike m n) (k : Nat) (memo : σ) (steps : Nat) :
    ((n.trace k).toRun memo steps).result = ((m.trace k).toRun memo steps).result := by
  obtain ⟨snapshots, fault, after⟩ := trace_alike h k
  simp only [Trace.toRun, Trace.ending, Trace.pc, snapshots, fault, after.space.registers]

end Machine

/-! ### Sessions -/

/-- Whether a command makes a step or a run within a budget that nobody watches. -/
def Command.Drives (c : Command) : Prop := c = .step ∨ ∃ start budget, c = .run start (some budget) none

namespace Session

/-- The replies to commands that are carried out one after the other. -/
def replies (s : Session) : List Command → List (Except Failure Reply)
  | [] => []
  | c :: rest => (s.apply c).2 :: (s.apply c).1.replies rest

/-- The session after commands that are carried out one after the other. -/
def after (s : Session) (commands : List Command) : Session := commands.foldl (fun s c => (s.apply c).1) s

theorem apply_step (s : Session) :
    s.apply .step = ({ s with machine := s.machine.step.1 },
      match s.machine.step.2 with
      | .error f => .error (.fault f)
      | .ok snapshot => .ok (.snapshot snapshot)) := by
  simp only [apply]
  rcases s.machine.step with ⟨m, f | snapshot⟩ <;> rfl

theorem apply_run (s : Session) (start : Option Int) (budget : Int) :
    s.apply (.run start (some budget) none) =
      let r := ((s.machine.started start).trace budget.toNat).toRun 0 0
      ({ s with machine := r.machine }, .ok (.run r.result r.memo)) := by
  have returns := s.machine.run_idle start budget 0 patience
  have idle : Condition.observer? patience none = .idle := rfl
  have unwatched : Option.mapM Watch.condition none = .ok none := rfl
  simp only [apply, unwatched, idle, returns]

/-- A step or a run gives the same reply on machines that are alike, and leaves them alike. -/
theorem apply_alike {s t : Session} (h : s.machine.Alike t.machine) {c : Command} (drives : c.Drives) :
    (t.apply c).2 = (s.apply c).2 ∧ (s.apply c).1.machine.Alike (t.apply c).1.machine := by
  obtain rfl | ⟨start, budget, rfl⟩ := drives
  · rw [apply_step, apply_step]
    have same := h.turn.1
    cases hf : s.machine.fault? with
    | some f =>
      rw [s.machine.step_of_fault hf, t.machine.step_of_fault (same.trans hf)]
      exact ⟨rfl, h.afterFault⟩
    | none =>
      rw [s.machine.step_of_completes hf, t.machine.step_of_completes (same.trans hf), h.snapshot_eq]
      exact ⟨rfl, h.next⟩
  · rw [apply_run, apply_run]
    obtain ⟨-, -, after⟩ := Machine.trace_alike (h.started start) budget.toNat
    have result := Machine.result_toRun_alike (h.started start) budget.toNat 0 0
    refine ⟨?_, after.stop⟩
    show Except.ok (Reply.run _ 0) = Except.ok (Reply.run _ 0)
    rw [result]

/-- **A cell that holds zero and a cell that was never written cannot be told apart by execution.** Let two machines have
the same policy, registers, count of steps, symbols and pending log, and the same word at every address, whichever cells
were ever written. Then any number of steps and of runs within budgets, in any order, give the same replies on both:
snapshots with their accesses, faults, and results of runs. The machines that they leave agree in the same way, in
particular at every location. -/
theorem replies_eq_of_alike {s t : Session} (h : s.machine.Alike t.machine) (commands : List Command)
    (drives : ∀ c ∈ commands, c.Drives) :
    t.replies commands = s.replies commands ∧ (s.after commands).machine.Alike (t.after commands).machine ∧
      ∀ l, (t.after commands).machine.space.inspect l = (s.after commands).machine.space.inspect l := by
  -- agreement at every location follows from the invariant, so only the invariant goes through the induction
  suffices same : t.replies commands = s.replies commands ∧ (s.after commands).machine.Alike (t.after commands).machine from
    ⟨same.1, same.2, same.2.space.inspect⟩
  induction commands generalizing s t with
  | nil => exact ⟨rfl, h⟩
  | cons c commands ih =>
    obtain ⟨reply, after⟩ := apply_alike h (drives c (List.mem_cons_self ..))
    obtain ⟨replies, last⟩ := ih after fun c hc => drives c (List.mem_cons_of_mem _ hc)
    refine ⟨?_, last⟩
    rw [Session.replies, reply, replies, Session.replies]

/-- A word is stored into a cell that one of two machines has never written, and the instruction after that divides by
zero. -/
theorem replies_eq_of_alike_store :
    let s : Session := { machine := { space := Space.loadWords {} [0x95E1, 0x2000, 0x8005] 0 } }
    let t : Session := { machine := { space := s.machine.space.load 0x2000 0 } }
    let commands : List Command := [.step, .run (some 0) (some 5) none]
    s.machine.Alike t.machine ∧ t.machine.space.memory ≠ s.machine.space.memory ∧ (∀ c ∈ commands, c.Drives) ∧
      t.replies commands = s.replies commands ∧
      (t.replies commands)[1]? = some (.ok (.run ⟨.fault (.divisionByZero 2 0x8005), 1, 2⟩ 0)) := by
  intro s t commands
  have alike : s.machine.Alike t.machine := by
    refine ⟨⟨rfl, rfl, rfl, fun address => ?_⟩, rfl, rfl⟩
    show (s.machine.space.load 0x2000 0).cell address = _
    rw [Space.cell_load]
    split
    next same =>
      have here : address = 0x2000 := same
      rw [here]
      decide
    next => rfl
  have drives : ∀ c ∈ commands, c.Drives := by
    simp [commands, Command.Drives]
  have second : (s.replies commands)[1]? = some (.ok (.run ⟨.fault (.divisionByZero 2 0x8005), 1, 2⟩ 0)) := by
    rw [Session.replies, Session.replies, apply_run]
    decide
  obtain ⟨replies, -, -⟩ := replies_eq_of_alike alike commands drives
  exact ⟨alike, by decide, drives, replies, replies ▸ second⟩

end Session

end Dcpu16
