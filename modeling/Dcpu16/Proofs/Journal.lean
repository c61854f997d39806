import Dcpu16.Proofs.Trace

/-!
The records of a run are a journal of its memory. Going through them one after the other from the cells at the
start, every read and every overwritten word is found as recorded, and what is there at the end are the cells the
run left behind. Going through them backwards, the overwritten words bring the cells back (`trace_journal`).

A routine leaves a `Trail`: its own accesses behind the log, and the cells as those accesses make them. Trails of
routines that follow each other are joined, and so are the trails of consecutive steps.
-/

namespace Dcpu16

/-! ### Replaying -/

/-- The address of the cell that was accessed. -/
def Access.address : Access → Int
  | read address _ => address
  | write address _ _ => address

namespace Cells

/-- The word in a cell. -/
def word (cells : Cells) (address : Int) : Word := cells[address]?.getD 0

/-- The cells after a list of accesses, if each of them finds the word that it records. -/
def replay (cells : Cells) : List Access → Option Cells
  | [] => some cells
  | .read address data :: rest => if cells.word address = data then replay cells rest else none
  | .write address data previous :: rest =>
    if cells.word address = previous then replay (cells.insert address data) rest else none

theorem replay_append (cells : Cells) (xs ys : List Access) :
    cells.replay (xs ++ ys) = (cells.replay xs).bind fun c => c.replay ys := by
  induction xs generalizing cells with
  | nil => rfl
  | cons x xs ih =>
    cases x with
    | read address data =>
      simp only [List.cons_append, replay]
      split
      · exact ih cells
      · rfl
    | write address data previous =>
      simp only [List.cons_append, replay]
      split
      · exact ih _
      · rfl

theorem word_insert (cells : Cells) (a b : Int) (w : Word) :
    Cells.word (cells.insert a w) b = if b = a then w else cells.word b :=
  Space.cell_insert w cells a b

end Cells

theorem Space.cell_eq (s : Space) (address : Int) : s.cell address = s.cells.word (s.policy.normalize address) := rfl

/-! ### Trails -/

/-- The accesses `es` lead from the cells of `s` to those of `t`, under the same policy. -/
structure Trail (s t : Space) (es : List Access) : Prop where
  policy : t.policy = s.policy
  cells : s.cells.replay es = some t.cells
  addresses : ∀ e ∈ es, ∃ address, Addressable address ∧ e.address = s.policy.normalize address

namespace Trail

theorem refl (s : Space) : Trail s s [] := ⟨rfl, rfl, by simp⟩

theorem trans {s t u : Space} {es fs : List Access} (h : Trail s t es) (k : Trail t u fs) : Trail s u (es ++ fs) where
  policy := k.policy.trans h.policy
  cells := by rw [Cells.replay_append, h.cells]; exact k.cells
  addresses e he := by
    rcases List.mem_append.1 he with he | he
    · exact h.addresses e he
    · rw [← h.policy]
      exact k.addresses e he

theorem read (s : Space) {address : Int} (h : Addressable address) :
    Trail s (s.touch (.cell address)) [s.readAt address] where
  policy := rfl
  cells := if_pos rfl
  addresses e he := ⟨address, h, by rw [List.mem_singleton.1 he]; rfl⟩

theorem store (s : Space) {address : Int} (h : Addressable address) (w : Word) :
    Trail s (s.store (.cell address) w) [.write (s.policy.normalize address) w (s.cell address)] where
  policy := rfl
  cells := if_pos rfl
  addresses e he := ⟨address, h, by rw [List.mem_singleton.1 he]; rfl⟩

/-- The log itself is no part of a trail. -/
theorem of_clearLog {s t : Space} {es : List Access} (h : Trail s.clearLog t es) : Trail s t es :=
  ⟨h.policy, h.cells, h.addresses⟩

/-- A recorded address names itself. -/
theorem normalize_address {s t : Space} {es : List Access} (h : Trail s t es) {e : Access} (he : e ∈ es) :
    s.policy.normalize e.address = e.address := by
  obtain ⟨address, -, heq⟩ := h.addresses e he
  rw [heq, Policy.normalize_normalize]

end Trail

/-- **A routine leaves a trail**, which it appends to the log. -/
theorem Routine.trail {α : Type} {f : Space → α × Space} (h : Routine f) (s : Space) :
    ∃ es, (f s).2.log = s.log ++ es ∧ Trail s (f s).2 es := by
  induction h generalizing s with
  | pure a => exact ⟨[], (List.append_nil _).symm, Trail.refl s⟩
  | registers => exact ⟨[], (List.append_nil _).symm, Trail.refl s⟩
  | read ha => exact ⟨_, rfl, Trail.read s ha⟩
  | store ha w => exact ⟨_, rfl, Trail.store s ha w⟩
  | set r w => exact ⟨[], (List.append_nil _).symm, rfl, rfl, by simp⟩
  | @bind α β f g hf hg ihf ihg =>
    obtain ⟨es, hes, kes⟩ := ihf s
    obtain ⟨fs, hfs, kfs⟩ := ihg s (f s).2
    refine ⟨es ++ fs, ?_, kes.trans kfs⟩
    rw [hfs, hes, List.append_assoc]

theorem Routine.prefix_log {α : Type} {f : Space → α × Space} (h : Routine f) (s : Space) :
    s.log <+: (f s).2.log := by
  obtain ⟨es, hes, -⟩ := h.trail s
  exact hes ▸ List.prefix_append _ _

namespace Machine

/-- The accesses of a step lead from the cells before it to the cells after it. -/
theorem trail_turned (m : Machine) : Trail m.space m.turned m.turned.log := by
  obtain ⟨es, hlog, h⟩ := Routine.turn.trail m.space.clearLog
  have hes : m.turned.log = es := hlog
  rw [hes]
  exact h.of_clearLog

/-- The accesses of consecutive steps lead from the cells before the first to the cells after the last. -/
theorem trail_trace (m : Machine) (n : Nat) (completes : (m.trace n).fault = none) :
    Trail m.space (m.trace n).machine.space (m.trace n).activity := by
  induction n generalizing m with
  | zero => exact Trail.refl m.space
  | succ n ih =>
    obtain ⟨h, hrest⟩ := fault_trace_succ_eq_none_iff.1 completes
    have rest : Trail m.turned.clearLog (m.next.trace n).machine.space (m.next.trace n).activity := ih m.next hrest
    rw [trace_succ_of_completes n h]
    exact m.trail_turned.trans rest.of_clearLog

end Machine

/-! ### Going back -/

/-- The address and the overwritten word of a write. -/
def Access.overwritten? : Access → Option (Int × Int)
  | read _ _ => none
  | write address _ previous => some (address, previous.address)

namespace Space

variable (s : Space)

/-- Loads the overwritten words of a list of accesses, the last one first. -/
def revert (es : List Access) : Space := s.loadPairs (es.reverse.filterMap Access.overwritten?)

theorem revert_cons (e : Access) (es : List Access) :
    s.revert (e :: es) = (s.revert es).loadPairs e.overwritten?.toList := by
  rw [revert, List.reverse_cons, List.filterMap_append, loadPairs_append]
  cases e <;> rfl

/-- Going back over the accesses that led to the cells of a space brings back the cells before them. -/
theorem cell_revert {cells : Cells} {es : List Access} (h : cells.replay es = some s.cells)
    (hes : ∀ e ∈ es, s.policy.normalize e.address = e.address) (address : Int) :
    (s.revert es).cell address = cells.word (s.policy.normalize address) := by
  induction es generalizing cells with
  | nil =>
    cases h
    rfl
  | cons e es ih =>
    have hes' : ∀ e ∈ es, s.policy.normalize e.address = e.address := fun f hf => hes f (List.mem_cons_of_mem _ hf)
    rw [revert_cons]
    cases e with
    | read a d =>
      rw [Cells.replay] at h
      split at h
      · exact ih h hes'
      · cases h
    | write a d p =>
      rw [Cells.replay] at h
      split at h
      next hp =>
        have ha : s.policy.normalize a = a := hes _ (List.mem_cons_self ..)
        have hrest := ih h hes'
        show ((s.revert es).load a p.address).cell address = _
        rw [cell_load, revert, policy_loadPairs, ha, ← revert, hrest, Cells.word_insert, Word.ofInt_address]
        split
        next heq => rw [heq, hp]
        next => rfl
      next => cases h

end Space

/-- Goes back over a list of accesses and puts saved registers back. -/
def Machine.rewind (m : Machine) (es : List Access) (saved : Registers) : Machine :=
  ({ m with space := m.space.revert es }).restore saved

/-- **The records of a run are a journal.** The accesses of consecutive steps can be replayed over the cells before
the first and give exactly the cells after the last, each read and each overwritten word being found as recorded;
and going back over them and restoring the registers brings every location back to its word before the first. -/
theorem Machine.trace_journal (m : Machine) (n : Nat) (completes : (m.trace n).fault = none) :
    let t := m.trace n
    m.space.cells.replay t.activity = some t.machine.space.cells ∧
    ∀ l, (t.machine.rewind t.activity m.space.registers).space.inspect l = m.space.inspect l := by
  intro t
  have trail : Trail m.space t.machine.space t.activity := m.trail_trace n completes
  refine ⟨trail.cells, fun l => ?_⟩
  have normal : ∀ e ∈ t.activity, t.machine.space.policy.normalize e.address = e.address := by
    intro e he
    rw [trail.policy]
    exact trail.normalize_address he
  cases l with
  | register r => rfl
  | cell address =>
    have h := Space.cell_revert t.machine.space trail.cells normal address
    rw [trail.policy] at h
    exact h

/-- Five is pushed, and then the instruction that pushed it is overwritten. -/
theorem Machine.trace_journal_push_overwrite :
    let m : Machine := { space := Space.loadWords {} [0x95A1, 0x9DE1, 0x0000] 0 }
    let t := m.trace 2
    t.fault = none ∧ m.space.cells.replay t.activity = some t.machine.space.cells ∧
      ∀ l, (t.machine.rewind t.activity m.space.registers).space.inspect l = m.space.inspect l := by
  intro m t
  have completes : t.fault = none := by decide
  exact ⟨completes, m.trace_journal 2 completes⟩

end Dcpu16
