import Dcpu16.Listing
import Dcpu16.Proofs.Fault

/-!
Operands and the places they come from. An operand that has a location shows the word there, before its resolution as
well as after it, since resolving writes nothing and moves no register that it names (`inspect_of_location`,
`inspect_resolve`). The one exception is a pushed operand: it shows the old top of the stack and is located at the new one.
Together with what a resolution does to registers, cells and log, this is all that an instruction relies on
(`resolve_effect`). Operand A is found before operand B, which has no part in it.
-/

namespace Dcpu16

/-! ### Fields -/

theorem Mode.takesWord_ofNat_iff (field : BitVec 6) :
    (Mode.ofNat field.toNat).takesWord = true ↔
      0x10 ≤ field.toNat ∧ field.toNat ≤ 0x17 ∨ field.toNat = 0x1E ∨ field.toNat = 0x1F := by
  revert field
  decide

theorem fieldTakesWord_toNat (field : BitVec 6) : fieldTakesWord field.toNat = (Mode.ofNat field.toNat).takesWord := by
  rw [fieldTakesWord, Mode.ofField?_toNat]
  rfl

namespace Space

variable (s : Space)

/-! ### Locations -/

/-- An operand that is not pushed shows the word at its location. -/
theorem inspect_of_location {m : Mode} {l : Location} (location : (s.resolve m).1.location = some l) (other : m ≠ .push) :
    s.inspect l = (s.resolve m).1.value := by
  cases m with
  | push => exact absurd rfl other
  | immediate | literal n => cases location
  | direct r | indirect r | offset r | pop | peek | absolute =>
    cases location
    rfl

/-- Resolving an operand leaves the word at its location. -/
theorem inspect_resolve {m : Mode} {l : Location} (location : (s.resolve m).1.location = some l) :
    (s.resolve m).2.inspect l = s.inspect l := by
  cases l with
  | cell address => exact s.cell_resolve m address
  | register r =>
    -- the operand is the register itself, and nothing moves
    obtain rfl := (s.location_resolve_eq_register_iff m r).1 location
    rfl

/-- A pushed operand shows the old top of the stack and is located at the new one. -/
theorem resolve_push :
    (s.resolve .push).1 =
      ⟨s.cell s.registers.sp.address, some (.cell ((s.registers.sp.address - 1) % 0x10000))⟩ := by
  rw [← Word.address_sub_one]
  rfl

/-! ### Pointers and records -/

theorem pc_resolve (m : Mode) : (s.resolve m).2.registers.pc = s.registers.pc + BitVec.ofNat 16 m.extraWords := by
  rw [registers_resolve]
  rfl

theorem address_pc_resolve (m : Mode) :
    (s.resolve m).2.registers.pc.address =
      if m.takesWord then (s.registers.pc.address + 1) % 0x10000 else s.registers.pc.address := by
  rw [pc_resolve, Mode.extraWords]
  cases m.takesWord with
  | true => exact Word.address_add_ofNat _ 1
  | false => exact congrArg Word.address (BitVec.add_zero _)

theorem address_sp_resolve (field : BitVec 6) :
    (s.resolve (.ofNat field.toNat)).2.registers.sp.address =
      if field = 0x18 then (s.registers.sp.address + 1) % 0x10000
      else if field = 0x1A then (s.registers.sp.address - 1) % 0x10000
      else s.registers.sp.address := by
  rw [sp_resolve, Mode.stackShift_ofNat]
  split
  · exact Word.address_add_ofNat _ 1
  · split
    · rw [← Word.address_sub_one, BitVec.sub_eq_add_neg]
    · exact congrArg Word.address (BitVec.add_zero _)

/-- What is recorded are reads of the cells as they are. -/
theorem mem_readsFor {m : Mode} {e : Access} (h : e ∈ s.readsFor m) : ∃ address, e = s.readAt address := by
  cases m <;> simp only [readsFor, List.mem_cons, List.not_mem_nil, or_false] at h
  case offset r | absolute => rcases h with h | h <;> exact ⟨_, h⟩
  case indirect r | pop | peek | push | immediate => exact ⟨_, h⟩

/-! ### The effect -/

/-- **What resolving an operand does.** The six bits of a field always stand for an operand. Resolving it changes no cell,
and no register but the program counter, which moves on by one if the field takes a word of the program, and the stack
pointer, which moves up by one for an operand that pops and down by one for one that pushes. It records reads only. The
operand has a word for its value, and it has a location unless it is a literal. A pushed operand shows the old top of the
stack and is located at the new one; any other operand with a location shows the word that is there, before as well as
after. Of the two operands of an instruction, A is resolved first and B in what A leaves, so A does not depend on B. -/
theorem resolve_effect :
    (∀ field : BitVec 6, ∃ o t, s.resolveField field.toNat = .ok (o, t) ∧
      t.policy = s.policy ∧ t.cells = s.cells ∧
      (∀ r, r ≠ .PC → r ≠ .SP → t.registers.get r = s.registers.get r) ∧
      (fieldTakesWord field.toNat = true ↔
        0x10 ≤ field.toNat ∧ field.toNat ≤ 0x17 ∨ field.toNat = 0x1E ∨ field.toNat = 0x1F) ∧
      t.registers.pc.address =
        (if fieldTakesWord field.toNat then (s.registers.pc.address + 1) % 0x10000 else s.registers.pc.address) ∧
      t.registers.sp.address =
        (if field = 0x18 then (s.registers.sp.address + 1) % 0x10000
        else if field = 0x1A then (s.registers.sp.address - 1) % 0x10000
        else s.registers.sp.address) ∧
      (∃ reads, t.log = s.log ++ reads ∧ ∀ e ∈ reads, ∃ address, e = s.readAt address) ∧
      (0 ≤ o.value.address ∧ o.value.address ≤ 0xFFFF) ∧
      (o.location = none ↔ 0x1F ≤ field.toNat) ∧
      (field = 0x1A →
        o = ⟨s.cell s.registers.sp.address, some (.cell ((s.registers.sp.address - 1) % 0x10000))⟩) ∧
      ∀ l, o.location = some l → field ≠ 0x1A → s.inspect l = o.value ∧ t.inspect l = o.value) ∧
    ∀ i : Instruction, ∃ a u b t, s.resolveField i.a.toNat = .ok (a, u) ∧ u.resolveField i.b.toNat = .ok (b, t) ∧
      s.operands i = (⟨a, b⟩, t) ∧ ∀ other : BitVec 6, (s.operands { i with b := other }).1.a = a := by
  refine ⟨fun field => ?_, fun i => ?_⟩
  · have writes := Writes.resolve s (.ofNat field.toNat)
    refine ⟨_, _, s.resolveField_toNat field, writes.policy, writes.cells_of_nil, writes.registers, ?_, ?_,
      s.address_sp_resolve field, ⟨_, s.log_resolve _, fun e => s.mem_readsFor⟩, Word.range _,
      s.location_resolve_ofNat_eq_none_iff field, ?_, fun l location other => ?_⟩
    · rw [fieldTakesWord_toNat]
      exact Mode.takesWord_ofNat_iff field
    · rw [fieldTakesWord_toNat]
      exact s.address_pc_resolve _
    · rintro rfl
      exact s.resolve_push
    · have shown := s.inspect_of_location location (mt (Mode.ofNat_eq_push_iff field).1 other)
      exact ⟨shown, (s.inspect_resolve location).trans shown⟩
  · exact ⟨_, _, _, _, s.resolveField_toNat i.a, resolveField_toNat _ i.b, rfl, fun _ => rfl⟩

/-- A word is pushed around the end of the addresses, and another one is found past that end, where a register and the next
word lead. -/
theorem resolve_effect_around_end :
    let s : Space := Space.loadPairs { registers := { a := 0xFFFF, pc := 4 } } [(0, 3), (5, 0x10), (0x1000F, 7)]
    (∃ o t, s.resolveField 0x1A = .ok (o, t) ∧ o = ⟨3, some (.cell 0xFFFF)⟩ ∧ t.registers.sp.address = 0xFFFF ∧
      t.registers.get .A = 0xFFFF) ∧
    ∃ o t, s.resolveField 0x10 = .ok (o, t) ∧ o.location = some (.cell 0x1000F) ∧ o.value = 7 ∧
      t.inspect (.cell 0x1000F) = 7 ∧ t.registers.pc.address = 5 := by
  intro s
  obtain ⟨fields, -⟩ := s.resolve_effect
  constructor
  · obtain ⟨o, t, resolved, -, -, registers, -, -, sp, -, -, -, pushed, -⟩ := fields 0x1A
    exact ⟨o, t, resolved, (pushed rfl).trans (by decide), sp.trans (by decide),
      (registers .A (by decide) (by decide)).trans (by decide)⟩
  · obtain ⟨o, t, resolved, -, -, -, -, pc, -, -, -, -, -, shows⟩ := fields 0x10
    have resolved : s.resolveField 0x10 = .ok (o, t) := resolved
    have location : o.location = some (.cell 0x1000F) := by
      have found : (s.resolveField 0x10).map (fun r => r.1.location) = .ok (some (.cell 0x1000F)) := by decide
      rw [resolved] at found
      exact Except.ok.inj found
    obtain ⟨before, after⟩ := shows _ location (by decide)
    have seven : s.inspect (.cell 0x1000F) = 7 := by decide
    exact ⟨o, t, resolved, location, before.symm.trans seven, after.trans (before.symm.trans seven), pc.trans (by decide)⟩

end Space

end Dcpu16
