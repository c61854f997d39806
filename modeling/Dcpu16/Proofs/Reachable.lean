import Dcpu16.Proofs.Display
import Dcpu16.Proofs.Kept

/-!
What holds of a machine after any history. A history is made of commands, those that fail included, and of runs whose
observers may do the same with the machine while they are polled (`Machine.Reaches`). Two places can go wrong: the
address under which a cell or a record is kept, and the addresses that an instruction forms. The first is the one that
the policy gives, whatever integer names the cell, since no operation keeps anything under another (`Space.Normal`);
the second is bounded by the routines that instructions are. Both together are `reaches_invariant`.
-/

namespace Dcpu16

/-! ### Normal spaces -/

/-- Cells and records are kept under the addresses that the policy gives. -/
structure Space.Normal (p : Policy) (s : Space) : Prop where
  policy : s.policy = p
  cells : ∀ a ∈ s.cells, p.normalize a = a
  log : ∀ e ∈ s.log, p.normalize e.address = e.address

namespace Space.Normal

variable {p : Policy} {s : Space}

theorem fresh (p : Policy) : Normal p { policy := p } where
  policy := rfl
  cells _ h := absurd h Std.ExtTreeMap.not_mem_empty
  log _ h := absurd h List.not_mem_nil

/-- A record of an access to a cell has the address that the policy gives. -/
theorem log_concat (h : Normal p s) {entry : Access} {address : Int} (recorded : entry.address = s.policy.normalize address) :
    ∀ e ∈ s.log ++ [entry], p.normalize e.address = e.address := by
  intro e he
  rcases List.mem_append.1 he with he | he
  · exact h.log e he
  · rw [List.mem_singleton.1 he, recorded, h.policy, Policy.normalize_normalize]

theorem insert (h : Normal p s) (address : Int) (w : Word) :
    Normal p { s with cells := s.cells.insert (s.policy.normalize address) w } where
  policy := h.policy
  cells a ha := by
    rcases Std.ExtTreeMap.mem_insert.1 ha with ha | ha
    · rw [← Std.LawfulEqCmp.eq_of_compare ha, h.policy, Policy.normalize_normalize]
    · exact h.cells a ha
  log := h.log

/-- Nothing is ever kept under another address. -/
theorem kept (p : Policy) : Kept (Normal p) where
  registers h _ := ⟨h.policy, h.cells, h.log⟩
  clearLog h := ⟨h.policy, h.cells, fun _ he => absurd he List.not_mem_nil⟩
  touch h _ := ⟨h.policy, h.cells, h.log_concat rfl⟩
  store h address w := ⟨h.policy, (h.insert address w).cells, h.log_concat rfl⟩
  load h address _ := h.insert address _

end Space.Normal

/-! ### Histories -/

/-- What can become of a machine: commands are carried out on it, with any slots, and it is run under an observer of
which each call can do the same with the machine it is given. -/
inductive Machine.Reaches : Machine → Machine → Prop where
  | refl (m : Machine) : Reaches m m
  | command {m before : Machine} (earlier : Reaches m before) (slots : Table Registers) (c : Command) :
    Reaches m ((Session.mk before slots).apply c).1.machine
  | run {m before : Machine} (earlier : Reaches m before) {σ : Type} {observe : Observer σ}
    (polled : ∀ memo m, Reaches m (observe memo m).machine) {start budget : Option Int} {memo : σ} {patience : Nat}
    {r : Run σ} (returns : before.run start budget observe memo patience = some r) : Reaches m r.machine

/-- A session is such a history. -/
theorem Machine.Reaches.session {m : Machine} {s : Session} (earlier : Reaches m s.machine) (commands : List Command) :
    Reaches m (commands.foldl (fun s c => (s.apply c).1) s).machine := by
  induction commands generalizing s with
  | nil => exact earlier
  | cons c commands ih => exact ih (earlier.command s.slots c)

theorem Machine.Reaches.normal {m after : Machine} (h : Reaches m after) {p : Policy} (hm : m.space.Normal p) :
    after.space.Normal p := by
  induction h with
  | refl m => exact hm
  | command earlier slots c ih => exact (Space.Normal.kept p).apply (s := ⟨_, slots⟩) (ih hm) c
  | run earlier polled returns ih ihp => exact (Space.Normal.kept p).run (ih hm) returns fun memo m => ihp memo m

/-- A machine under a policy to which nothing has happened yet. -/
def Machine.fresh (p : Policy) : Machine := { space := { policy := p } }

theorem Machine.Reaches.normal_of_fresh {p : Policy} {m : Machine} (h : Reaches (fresh p) m) : m.space.Normal p :=
  h.normal (Space.Normal.fresh p)

/-! ### Addresses -/

theorem Addressable.normalize {address : Int} (h : Addressable address) (p : Policy) :
    Addressable (p.normalize address) := by
  cases p with
  | sparse => exact h
  | wrap =>
    rw [Policy.normalize_wrap]
    constructor <;> omega

/-- The cells that an instruction accesses are addressable, whatever the policy. -/
theorem Trail.addressable {s t : Space} {es : List Access} (h : Trail s t es) {e : Access} (he : e ∈ es) :
    Addressable e.address := by
  obtain ⟨address, haddress, heq⟩ := h.addresses e he
  rw [heq]
  exact haddress.normalize s.policy

/-- Under the wrap policy the address that a cell is kept under is a word. -/
theorem range_of_normalize_wrap {address : Int} (h : Policy.wrap.normalize address = address) :
    0 ≤ address ∧ address ≤ 0xFFFF := by
  rw [Policy.normalize_wrap] at h
  omega

namespace Space

variable (s : Space)

/-- The cells that were ever written are listed by rising address. -/
theorem memory_pairwise : s.memory.Pairwise fun x y => x.1 < y.1 :=
  Std.ExtTreeMap.ordered_keys_toList.imp fun h => Std.compare_eq_lt.1 h

theorem mem_memory {a : Int} {w : Word} : (a, w) ∈ s.memory ↔ s.cells[a]? = some w :=
  Std.ExtTreeMap.mem_toList_iff_getElem?_eq_some

/-- A cell that was ever written is kept under the address that the policy gives it. -/
theorem Normal.memory {p : Policy} {s : Space} (h : s.Normal p) {cell : Int × Word} (hcell : cell ∈ s.memory) :
    p.normalize cell.1 = cell.1 :=
  h.cells _ (Std.ExtTreeMap.mem_iff_isSome_getElem?.2 (Option.isSome_of_eq_some ((mem_memory s).1 hcell)))

theorem address_inspect_write (l : Location) (value : Int) :
    ((s.write l value).inspect l).address = value % 0x10000 := by
  rw [write, inspect_store, if_pos rfl]
  exact Word.toNat_ofInt value

theorem address_cell_load (address value : Int) : ((s.load address value).cell address).address = value % 0x10000 := by
  rw [cell_load, if_pos rfl]
  exact Word.toNat_ofInt value

end Space

/-! ### The invariant -/

/-- **What holds of a machine after any history.** The policy has not changed. Every location holds a word, and takes
any integer modulo `0x10000`. The written cells are listed by rising address. A pending record of a read holds a word,
one of a write two. Under the wrap policy every written cell and every pending record has a word for its address. What an
instruction accesses, executed directly or by a step, completed or not, lies between `0` and `0x1FFFE` under both
policies. -/
theorem Machine.reaches_invariant (p : Policy) {m : Machine} (reached : Reaches (fresh p) m) :
    let s := m.space
    s.policy = p ∧
    (∀ l, 0 ≤ (s.inspect l).address ∧ (s.inspect l).address ≤ 0xFFFF) ∧
    (∀ l value, ((s.write l value).inspect l).address = value % 0x10000) ∧
    (∀ address value, ((s.load address value).cell address).address = value % 0x10000) ∧
    (s.memory.Pairwise fun x y => x.1 < y.1) ∧
    (∀ e ∈ s.log, match e with
      | .read _ data => 0 ≤ data.address ∧ data.address ≤ 0xFFFF
      | .write _ data previous =>
        (0 ≤ data.address ∧ data.address ≤ 0xFFFF) ∧ 0 ≤ previous.address ∧ previous.address ≤ 0xFFFF) ∧
    (p = .wrap →
      (∀ cell ∈ s.memory, 0 ≤ cell.1 ∧ cell.1 ≤ 0xFFFF) ∧ ∀ e ∈ s.log, 0 ≤ e.address ∧ e.address ≤ 0xFFFF) ∧
    (∀ word, ∃ es, (s.execute word).1.log = s.log ++ es ∧ ∀ e ∈ es, 0 ≤ e.address ∧ e.address ≤ 0x1FFFE) ∧
    ∀ e ∈ m.accesses, 0 ≤ e.address ∧ e.address ≤ 0x1FFFE := by
  intro s
  have normal : s.Normal p := reached.normal_of_fresh
  refine ⟨normal.policy, fun l => Word.range _, s.address_inspect_write, s.address_cell_load, s.memory_pairwise,
    fun e _ => ?_, ?_, fun word => ?_, fun e he => ?_⟩
  · cases e with
    | read address data => exact data.range
    | write address data previous => exact ⟨data.range, previous.range⟩
  · rintro rfl
    exact ⟨fun cell hcell => range_of_normalize_wrap (normal.memory hcell),
      fun e he => range_of_normalize_wrap (normal.log e he)⟩
  · obtain ⟨es, hlog, trail⟩ := (Routine.execute word).trail s
    exact ⟨es, hlog, fun e he => trail.addressable he⟩
  · rw [accesses_eq] at he
    exact m.trail_turned.addressable he

/-- A write past both ends of the range, a division by zero, and a run whose observer pushes a word and cancels. -/
theorem Machine.reaches_invariant_after_fault :
    let commands : List Command := [.write (.number (-2)) 70000, .execute 0x0405]
    let before := (commands.foldl (fun (s : Session) c => (s.apply c).1) (.fresh .wrap)).machine
    let observe : Observer Unit := fun memo m => ⟨memo, ((Session.mk m ∅).apply (.pushValue (-7))).1.machine, true⟩
    ∃ r, before.run none none observe () 1 = some r ∧ Reaches (fresh .wrap) r.machine ∧
      r.machine.space.memory = [(0xFFFE, 4464), (0xFFFF, 65529)] ∧
      r.machine.space.log = [.write 0xFFFE 4464 0, .write 0xFFFF 65529 0] ∧
      r.machine.space.memory.Pairwise (fun x y => x.1 < y.1) ∧
      ∀ e ∈ r.machine.space.log, 0 ≤ e.address ∧ e.address ≤ 0xFFFF := by
  intro commands before observe
  have reached : Reaches (fresh .wrap) before := (Reaches.refl _).session (s := .fresh .wrap) commands
  have polled : ∀ memo m, Reaches m (observe memo m).machine := fun _ m => (Reaches.refl m).command ∅ (.pushValue (-7))
  have ended : ((before.run none none observe () 1).map fun r => (r.machine.space.memory, r.machine.space.log)) =
      some ([(0xFFFE, 4464), (0xFFFF, 65529)], [.write 0xFFFE 4464 0, .write 0xFFFF 65529 0]) := by decide
  obtain ⟨r, returns, contents⟩ := Option.map_eq_some_iff.1 ended
  obtain ⟨memory, log⟩ := Prod.mk.inj contents
  have after : Reaches (fresh .wrap) r.machine := reached.run polled returns
  obtain ⟨-, -, -, -, rising, -, wrap, -⟩ := reaches_invariant .wrap after
  exact ⟨r, returns, after, memory, log, rising, (wrap rfl).2⟩

end Dcpu16
