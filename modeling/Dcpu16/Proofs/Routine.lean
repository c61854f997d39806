import Dcpu16.Execute
import Dcpu16.Proofs.Resolution

/-!
Everything an instruction does is made of single accesses: looking at the registers, reading or storing one cell,
and setting one register. A `Routine` is a computation on a space that is made of these and nothing else, one
after the other. Executing a word is a routine (`Routine.execute`), so what holds of the single accesses and is
kept when computations follow each other holds of every instruction, by one induction on the derivation.
-/

namespace Dcpu16

/-- The addresses that an instruction can form: a word, a word plus one, or the sum of two words. -/
def Addressable (address : Int) : Prop := 0 ≤ address ∧ address ≤ 0x1FFFE

theorem Word.addressable (w : Word) : Addressable w.address := by
  have := w.address_nonneg
  have := w.address_lt
  constructor <;> omega

theorem Word.addressable_add (v w : Word) : Addressable (v.address + w.address) := by
  have := v.address_nonneg
  have := v.address_lt
  have := w.address_nonneg
  have := w.address_lt
  constructor <;> omega

theorem Word.addressable_succ (w : Word) : Addressable (w.address + 1) := by
  have := w.address_nonneg
  have := w.address_lt
  constructor <;> omega

/-- Computations on a space that are made of single accesses. What follows a computation may depend on its
result. -/
inductive Routine : {α : Type} → (Space → α × Space) → Prop where
  | pure {α : Type} (a : α) : Routine fun s => (a, s)
  | registers : Routine fun s => (s.registers, s)
  | read {address : Int} (h : Addressable address) : Routine fun s => s.read (.cell address)
  | store {address : Int} (h : Addressable address) (w : Word) : Routine fun s => ((), s.store (.cell address) w)
  | set (r : Register) (w : Word) : Routine fun s => ((), s.store (.register r) w)
  | bind {α β : Type} {f : Space → α × Space} {g : α → Space → β × Space} (hf : Routine f)
      (hg : ∀ s, Routine (g (f s).1)) : Routine fun s => g (f s).1 (f s).2

namespace Routine

variable {α β : Type}

theorem of_eq {f g : Space → α × Space} (hf : Routine f) (h : ∀ s, g s = f s) : Routine g := by
  rwa [funext h]

/-- A routine that begins by looking at the registers. -/
theorem withRegisters {g : Registers → Space → α × Space} (hg : ∀ rs, Routine (g rs)) :
    Routine fun s => g s.registers s :=
  registers.bind fun s => hg s.registers

theorem map {f : Space → α × Space} (hf : Routine f) (k : α → β) : Routine fun s => (k (f s).1, (f s).2) :=
  hf.bind (g := fun a s => (k a, s)) fun s => pure (k (f s).1)

/-- A routine whose only result is the changed space. -/
abbrev Change (u : Space → Space) : Prop := Routine fun s => ((), u s)

theorem Change.andThen {u : Space → Space} {g : Space → α × Space} (hu : Change u) (hg : Routine g) :
    Routine fun s => g (u s) :=
  hu.bind (g := fun _ => g) fun _ => hg

theorem Change.comp {u v : Space → Space} (hu : Change u) (hv : Change v) : Change fun s => v (u s) :=
  hu.andThen hv

theorem Change.returning {u : Space → Space} (hu : Change u) (a : α) : Routine fun s => (a, u s) :=
  hu.andThen (pure a)

/-! ### Reading and the stack -/

theorem dereference (r : Register) : Routine fun s => s.dereference (.register r) :=
  withRegisters fun rs => read (rs.get r).addressable

theorem increment (r : Register) : Change fun s => s.increment (.register r) :=
  withRegisters fun rs => set r (rs.get r + 1)

theorem decrement (r : Register) : Change fun s => s.decrement (.register r) :=
  withRegisters fun rs => set r (rs.get r - 1)

theorem pop : Routine Space.pop :=
  (dereference .SP).bind (g := fun w s => (w, s.increment (.register .SP))) fun _ => (increment .SP).returning _

theorem push : Routine Space.push :=
  (decrement .SP).andThen (withRegisters fun rs => pure rs.sp)

theorem pushValue (value : Int) : Change fun s => s.pushValue value :=
  push.bind (g := fun (top : Word) s => ((), s.write (.cell top.address) value)) fun s =>
    store s.push.1.addressable (Word.ofInt value)

theorem nextWord : Routine Space.nextWord :=
  withRegisters fun rs => (read rs.pc.addressable_succ).bind
    (g := fun w s => (w, s.increment (.register .PC))) fun _ => (increment .PC).returning _

/-! ### Operands -/

theorem operandAt {address : Int} (h : Addressable address) : Routine fun s => s.operandAt address :=
  (read h).map fun w => Operand.mk w (some (.cell address))

theorem resolve (m : Mode) : Routine fun s => s.resolve m := by
  cases m with
  | direct r => exact withRegisters fun rs => pure (Operand.mk (rs.get r) (some (.register r)))
  | indirect r => exact withRegisters fun rs => operandAt (rs.get r).addressable
  | offset r =>
    exact nextWord.bind (g := fun w s => s.operandAt ((s.registers.get r).address + w.address)) fun _ =>
      withRegisters fun rs => operandAt ((rs.get r).addressable_add _)
  | pop => exact withRegisters fun rs => pop.map fun w => Operand.mk w (some (.cell rs.sp.address))
  | peek =>
    exact (dereference .SP).bind (g := fun w s => (Operand.mk w (some (.cell s.registers.sp.address)), s)) fun _ =>
      withRegisters fun rs => pure (Operand.mk _ (some (.cell rs.sp.address)))
  | push =>
    exact (dereference .SP).bind (g := fun w s => (Operand.mk w (some (.cell s.push.1.address)), s.push.2)) fun _ =>
      push.map fun top => Operand.mk _ (some (.cell top.address))
  | absolute => exact nextWord.bind (g := fun w s => s.operandAt w.address) fun _ => operandAt (Word.addressable _)
  | immediate => exact nextWord.map fun w => Operand.mk w none
  | literal n => exact pure (Operand.mk (BitVec.ofNat 16 n) none)

theorem operands (i : Instruction) : Routine fun s => s.operands i :=
  (resolve i.modeA).bind (g := fun a s => (Space.Operands.mk a (s.resolve i.modeB).1, (s.resolve i.modeB).2)) fun _ =>
    (resolve i.modeB).map fun b => Space.Operands.mk _ b

/-! ### Results -/

theorem advance (n : Nat) : Change fun s => s.advance n :=
  withRegisters fun rs => set .PC (rs.pc + BitVec.ofNat 16 n)

theorem skip : Change Space.skip :=
  withRegisters fun rs => (read rs.pc.addressable_succ).bind
    (g := fun next s => ((), s.store (.register .PC) (rs.pc + 1 + BitVec.ofNat 16 (Instruction.ofWord next).size)))
    fun _ => set .PC _

theorem setOverflow (o : Option Word) : Change fun s => s.setOverflow o := by
  cases o with
  | none => exact pure ()
  | some w => exact set .O w

theorem deliver (w : Word) {l : Option Location} (h : ∀ address, l = some (.cell address) → Addressable address) :
    Change fun s => s.deliver w l := by
  rcases l with _ | address | r
  · exact pure ()
  · exact store (h address rfl) w
  · exact set r w

/-- Only addressable cells are operands. -/
theorem addressable_of_resolve {s : Space} {m : Mode} {address : Int}
    (h : (s.resolve m).1.location = some (.cell address)) : Addressable address := by
  cases m with
  | direct r => cases h
  | indirect r => cases h; exact Word.addressable _
  | offset r => cases h; exact Word.addressable_add _ _
  | pop => cases h; exact Word.addressable _
  | peek => cases h; exact Word.addressable _
  | push => cases h; exact Word.addressable _
  | absolute => cases h; exact Word.addressable _
  | immediate => cases h
  | literal n => cases h

/-! ### Instructions -/

theorem perform (i : Instruction) (word : Int) : Routine fun s => (s.perform i word).swap := by
  have delivered (s : Space) (w : Word) : Change fun t => t.deliver w (s.operands i).1.a.location :=
    deliver w fun _ h => addressable_of_resolve h
  cases hi : i.action with
  | set =>
    refine ((operands i).bind (g := fun o s => (none, if o.a.location = some (.register .PC) then
      s.deliver o.b.value o.a.location else (s.deliver o.b.value o.a.location).advance 1)) fun s => ?_).of_eq ?_
    · split
      · exact (delivered s _).returning none
      · exact ((delivered s _).comp (advance 1)).returning none
    · intro s
      simp only [Space.perform, hi]
      rfl
  | compute op =>
    refine (withRegisters fun rs => (operands i).bind (g := fun o s =>
      (op.apply o.a.value o.b.value).elim (some (.divisionByZero rs.pc word), s) fun out =>
        (none, ((s.setOverflow out.overflow).deliver out.result o.a.location).advance 1))
      fun s => ?_).of_eq ?_
    · cases op.apply (s.operands i).1.a.value (s.operands i).1.b.value with
      | none => exact pure _
      | some out => exact (((setOverflow _).comp (delivered s _)).comp (advance 1)).returning none
    · intro s
      simp only [Space.perform, hi]
      cases op.apply (s.operands i).1.a.value (s.operands i).1.b.value <;> rfl
  | test t =>
    refine ((operands i).bind (g := fun o s =>
      (none, if t.holds o.a.value o.b.value then s.advance 1 else s.skip)) fun s => ?_).of_eq ?_
    · split
      · exact (advance 1).returning none
      · exact skip.returning none
    · intro s
      simp only [Space.perform, hi]
      rfl
  | call =>
    refine ((resolve i.modeB).bind (g := fun target s =>
      (none, (s.pushValue (s.registers.pc.address + 1)).store (.register .PC) target.value)) fun s => ?_).of_eq ?_
    · exact withRegisters fun rs => ((pushValue (rs.pc.address + 1)).comp (set .PC _)).returning none
    · intro s
      simp only [Space.perform, hi]
      rfl
  | undefined =>
    refine ((advance (Instruction.decode word).size).returning none).of_eq fun s => ?_
    simp only [Space.perform, hi]
    rfl

/-- **Executing a word is a routine.** -/
theorem execute (word : Int) : Routine fun s => (s.execute word).swap := perform (.decode word) word

end Routine

end Dcpu16
