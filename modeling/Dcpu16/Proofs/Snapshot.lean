import Dcpu16.Proofs.Calls
import Dcpu16.Proofs.Journal

/-!
A snapshot against a listing. A step describes its instruction after the fetch and before the execution. The fetch only
records, so what is described is the instruction that a listing shows at that moment, whatever the execution then does to
the words of it (`step_shows_listing`). The label in front of the text is the last name that the table of symbols has for
the address (`describe_of_isLast`).
-/

namespace Dcpu16

/-! ### The last name -/

namespace Table

variable {α : Type} {t : Table α} {value : α} {name : Text}

/-- A name is the last one, in the order of a table, that has a value. -/
def IsLast (t : Table α) (value : α) (name : Text) : Prop :=
  ∃ before after, t.entries = before ++ (name, value) :: after ∧ ∀ entry ∈ after, entry.2 ≠ value

variable [DecidableEq α]

theorem lastName?_eq_some_iff : t.lastName? (· == value) = some name ↔ t.IsLast value name := by
  rw [lastName?, Option.map_eq_some_iff]
  constructor
  · rintro ⟨⟨name, found⟩, first, rfl⟩
    obtain ⟨same, after, before, split, others⟩ := List.find?_eq_some_iff_append.1 first
    obtain rfl : found = value := beq_iff_eq.1 same
    refine ⟨before.reverse, after.reverse, ?_, fun entry hentry => ?_⟩
    · rw [← List.reverse_reverse t.entries, split]
      simp
    · simpa using others entry (List.mem_reverse.1 hentry)
  · rintro ⟨before, after, split, others⟩
    refine ⟨(name, value), List.find?_eq_some_iff_append.2 ⟨beq_self_eq_true _, after.reverse, before.reverse, ?_, ?_⟩, rfl⟩
    · rw [split]
      simp
    · intro entry hentry
      simpa using others entry (List.mem_reverse.1 hentry)

end Table

namespace Machine

variable (m : Machine) {address : Int} (op : Operation)

/-- A name that is not empty stands in front of the text. -/
theorem describe_of_isLast {name : Text} (last : m.symbols.IsLast address name) (ne : name ≠ []) :
    m.describe address op = name ++ Text.ofString ": " ++ Text.ofString op.text := by
  have label : m.label address = name := by rw [Machine.label, Table.lastName?_eq_some_iff.2 last, Option.getD_some]
  simp only [describe, label, if_neg ne]

/-- Without a name, and also with an empty one, there is only the text. -/
theorem describe_of_forall_isLast (none : ∀ name, m.symbols.IsLast address name → name = []) :
    m.describe address op = Text.ofString op.text := by
  have label : m.label address = [] := by
    rw [Machine.label]
    cases h : m.symbols.lastName? (· == address) with
    | none => rfl
    | some name => exact none name (Table.lastName?_eq_some_iff.1 h)
  simp only [describe, label, if_true, List.nil_append]

/-! ### The record of a step -/

/-- The record of a step begins with the fetch. -/
theorem exists_log_turned :
    ∃ es, m.turned.log = .read m.space.registers.pc.address (m.space.cell m.space.registers.pc.address) :: es := by
  have fetched : m.space.clearLog.fetch.2.log =
      [.read m.space.registers.pc.address (m.space.cell m.space.registers.pc.address)] := by
    show [Access.read (m.space.policy.normalize m.space.registers.pc.address) _] = _
    rw [Policy.normalize_address]
    rfl
  obtain ⟨es, rest⟩ := (Routine.execute m.space.clearLog.fetch.1.address).prefix_log m.space.clearLog.fetch.2
  rw [fetched] at rest
  exact ⟨es, rest.symm⟩

/-- What is pending before a step has no part in it. -/
theorem step_withLog (pending : List Access) :
    ({ m with space := { m.space with log := pending } } : Machine).step = m.step := rfl

/-- **A snapshot shows the line of a listing made before the step.** The words are those of the line, and the label is its
text, behind the last name of the address if that is not empty. The registers are those after the step, one more step is
counted, and the record begins with the read of the instruction, whatever was pending before. -/
theorem step_shows_listing {shown : Snapshot} (completes : m.step.2 = .ok shown) :
    let pc := m.space.registers.pc.address
    (∃ line, m.space.listing pc 1 = [line] ∧ line.address = pc ∧
      line.words = " ".intercalate
        (shown.operation.opcodeHex :: shown.operation.trailing.map fun w => wordStyle.text w.address) ∧
      (∀ name, m.symbols.IsLast pc name → name ≠ [] →
        shown.label = name ++ Text.ofString ": " ++ Text.ofString line.text) ∧
      ((∀ name, m.symbols.IsLast pc name → name = []) → shown.label = Text.ofString line.text)) ∧
    shown.registers = m.step.1.space.registers ∧ shown.stepCount = m.stepCount + 1 ∧
    (∃ es, shown.activity = .read pc (m.space.cell pc) :: es) ∧
    shown.operation.opcodeHex = wordStyle.text (m.space.cell pc).address ∧
    ∀ pending, ({ m with space := { m.space with log := pending } } : Machine).step = m.step := by
  intro pc
  obtain ⟨-, rfl⟩ := m.step_eq_ok_iff.1 completes
  obtain ⟨es, record⟩ := m.exists_log_turned
  have listed : m.space.listing pc 1 =
      [⟨pc, (m.space.operationAt pc).hexWords, (m.space.operationAt pc).text⟩] := rfl
  refine ⟨⟨_, listed, rfl, ?_, ?_, ?_⟩, m.registers_step.symm, rfl, ⟨es, record⟩, rfl, m.step_withLog⟩
  · rw [Operation.hexWords, List.map_cons]
    rfl
  · exact fun name last ne => m.describe_of_isLast _ last ne
  · exact fun none => m.describe_of_forall_isLast _ none

/-- The instruction, a transfer to its own cell, has two names and a read that is still pending. After the step there is
another instruction in its cell. -/
theorem step_shows_listing_overwritten :
    let s : Space := Space.loadWords { registers := { pc := 2 } } [0x7DE1, 2, 0x8401] 2
    let m : Machine :=
      { space := s.touch (.cell 7), stepCount := 4, symbols := .ofPairs [("a", 2), ("b", 3), ("c", 2), ("d", 3)] }
    ∃ shown, m.step.2 = .ok shown ∧ m.space.listing 2 1 = [⟨2, "7DE1 0002 8401", "SET [0x0002], 0x8401"⟩] ∧
      shown.label = Text.ofString "c: SET [0x0002], 0x8401" ∧
      (m.step.1.space.listing 2 1).map Line.words = ["8401"] ∧ shown.stepCount = 5 ∧
      ∃ es, shown.activity = .read 2 0x7DE1 :: es := by
  intro s m
  have completes : m.step.2 = .ok m.snapshot := m.step_eq_ok_iff.2 ⟨by decide, rfl⟩
  obtain ⟨⟨line, listed, -, -, named, -⟩, -, count, record, -⟩ := m.step_shows_listing completes
  have here : m.space.listing 2 1 = [⟨2, "7DE1 0002 8401", "SET [0x0002], 0x8401"⟩] := by decide
  obtain ⟨rfl, -⟩ := List.cons.inj (listed.symm.trans here)
  have last : m.symbols.IsLast 2 (Text.ofString "c") :=
    ⟨[(Text.ofString "a", 2), (Text.ofString "b", 3)], [(Text.ofString "d", 3)], by decide, by decide⟩
  exact ⟨m.snapshot, completes, here, (named _ last (by decide)).trans (by decide), by decide, count, record⟩

end Machine

end Dcpu16
