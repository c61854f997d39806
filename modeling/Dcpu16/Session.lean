import Dcpu16.Image
import Dcpu16.Register
import Dcpu16.Run

/-!
Sessions: a machine driven by commands, one after the other, with slots in which registers can be saved. Each
command gives a reply or fails, and a failed command does not end the session. What a command changed before it
failed stays changed.
-/

namespace Dcpu16

/-! ### Commands -/

/-- A location as a user names it. -/
inductive Place where
  | number (address : Int)
  | name (text : Text)
  deriving DecidableEq, Repr

/-- The location that a place stands for. -/
def Place.location : Place → Except Register.NameError Location
  | number address => .ok (.cell address)
  | name text => (Register.ofName text).map .register

/-- A condition as a user states it. -/
inductive Watch where
  | holds (place : Place) (value : Int)
  | other (c : Condition)
  deriving DecidableEq, Repr

/-- The condition that a user means. -/
def Watch.condition : Watch → Except Register.NameError Condition
  | holds place value => place.location.map (.holds · value)
  | other c => .ok c

/-- A command of a session. -/
inductive Command where
  | read (place : Place)
  | inspect (place : Place)
  | write (place : Place) (value : Int)
  | increment (place : Place)
  | decrement (place : Place)
  | dereference (place : Place)
  | pop
  | peek
  | push
  | pushValue (value : Int)
  | load (address value : Int)
  | loadPairs (pairs : List (Int × Int))
  | loadWords (words : List Int) (origin : Int)
  | loadImage (text : Text) (origin : Int)
  | memory
  | log
  | poke (registers : List (Text × Int)) (cells : List (Int × Int))
  | resolve (field : Int)
  | execute (word : Int)
  | step
  | run (start budget : Option Int) (watch : Option Watch)
  | stop
  | reset (start : Int)
  | stepCount
  | registers
  | save (slot : Text)
  | restore (slot : Text)
  | restoreRegisters (values : List (Register × Int))
  | restoreBase (pc sp : Int)
  | setSymbols (pairs : List (Text × Int))
  | symbols
  | layout
  | listing (start count : Int)
  | operation (address : Int)
  deriving DecidableEq, Repr

/-- The reply to a command that succeeds. -/
inductive Reply where
  | done
  | word (w : Word)
  | count (n : Nat)
  | memory (cells : List (Int × Word))
  | log (accesses : List Access)
  | operand (o : Operand)
  | snapshot (s : Snapshot)
  | run (r : RunResult) (polls : Nat)
  | registers (rs : Registers)
  | symbols (pairs : List (Text × Int))
  | layout (groups : List (String × List (Register × Nat)))
  | listing (lines : List Line)
  | operation (op : Operation)
  deriving DecidableEq, Repr

/-- Why a command fails. -/
inductive Failure where
  | name (e : Register.NameError)
  | field (e : FieldError)
  | image (e : Image.Error)
  | fault (f : Fault)
  | endless
  | emptySlot
  deriving DecidableEq, Repr

/-! ### Sessions -/

/-- A machine with its slots. -/
structure Session where
  machine : Machine
  slots : Table Registers := ∅

namespace Session

/-- The number of polls after which a run without a budget is given up. -/
def patience : Nat := 1000000000

/-- A session with a fresh machine. -/
def fresh (policy : Policy) : Session := { machine := { space := { policy } } }

variable (s : Session)

/-- The session with another space. -/
def withSpace (space : Space) : Session := { s with machine := { s.machine with space } }

/-- Writes values to registers in order, up to the first name that no register has. -/
def pokeRegisters (space : Space) : List (Text × Int) → Space × Except Register.NameError Unit
  | [] => (space, .ok ())
  | (name, value) :: rest =>
    match Register.ofName name with
    | .error e => (space, .error e)
    | .ok r => pokeRegisters (space.write (.register r) value) rest

/-- Carries out something at a place. -/
def atPlace (place : Place) (act : Location → Session × Reply) : Session × Except Failure Reply :=
  match place.location with
  | .error e => (s, .error (.name e))
  | .ok l => let (s, reply) := act l; (s, .ok reply)

/-- Carries out a command. -/
def apply (command : Command) : Session × Except Failure Reply :=
  let m := s.machine
  let space := m.space
  let read (result : Word × Space) : Session × Reply := (s.withSpace result.2, .word result.1)
  let change (space : Space) : Session × Reply := (s.withSpace space, .done)
  match command with
  | .read place => s.atPlace place fun l => read (space.read l)
  | .inspect place => s.atPlace place fun l => (s, .word (space.inspect l))
  | .write place value => s.atPlace place fun l => change (space.write l value)
  | .increment place => s.atPlace place fun l => change (space.increment l)
  | .decrement place => s.atPlace place fun l => change (space.decrement l)
  | .dereference place => s.atPlace place fun l => read (space.dereference l)
  | .pop => (read space.pop).map id .ok
  | .peek => (read space.peek).map id .ok
  | .push => (read space.push).map id .ok
  | .pushValue value => (change (space.pushValue value)).map id .ok
  | .load address value => (change (space.load address value)).map id .ok
  | .loadPairs pairs => (change (space.loadPairs pairs)).map id .ok
  | .loadWords words origin =>
    let (count, space) := space.loadCounted words origin
    (s.withSpace space, .ok (.count count))
  | .loadImage text origin =>
    match Image.read text origin with
    | .error e => (s, .error (.image e))
    | .ok pairs => (s.withSpace (space.loadPairs pairs), .ok (.count pairs.length))
  | .memory => (s, .ok (.memory space.memory))
  | .log => (s.withSpace space.drain.2, .ok (.log space.drain.1))
  | .poke registers cells =>
    match pokeRegisters space registers with
    | (space, .error e) => (s.withSpace space, .error (.name e))
    | (space, .ok ()) => (s.withSpace (space.loadPairs cells), .ok .done)
  | .resolve field =>
    match space.resolveField field with
    | .error e => (s, .error (.field e))
    | .ok (operand, space) => (s.withSpace space, .ok (.operand operand))
  | .execute word =>
    match space.execute word with
    | (space, some fault) => (s.withSpace space, .error (.fault fault))
    | (space, none) => (s.withSpace space, .ok .done)
  | .step =>
    match m.step with
    | (machine, .error fault) => ({ s with machine }, .error (.fault fault))
    | (machine, .ok snapshot) => ({ s with machine }, .ok (.snapshot snapshot))
  | .run start budget watch =>
    match watch.mapM Watch.condition with
    -- the run has begun when its first poll looks the register up
    | .error e => ({ s with machine := (m.launch start).stop }, .error (.name e))
    | .ok condition =>
      match m.run start budget (Condition.observer? patience condition) 0 patience with
      | none => (s, .error .endless)
      | some r => ({ s with machine := r.machine }, .ok (.run r.result r.memo))
  | .stop => ({ s with machine := m.stop }, .ok .done)
  | .reset start => ({ s with machine := m.reset start }, .ok .done)
  | .stepCount => (s, .ok (.count m.stepCount))
  | .registers => (s, .ok (.registers space.registers))
  | .save slot => ({ s with slots := s.slots.insert slot space.registers }, .ok .done)
  | .restore slot =>
    match s.slots.get? slot with
    | none => (s, .error .emptySlot)
    | some saved => ({ s with machine := m.restore saved }, .ok .done)
  | .restoreRegisters values =>
    let saved := values.foldl (fun rs (r, value) => rs.set r (Word.ofInt value)) {}
    ({ s with machine := m.restore saved }, .ok .done)
  | .restoreBase pc sp => ({ s with machine := m.restoreBase pc sp }, .ok .done)
  | .setSymbols pairs => ({ s with machine := { m with symbols := Table.ofPairs pairs } }, .ok .done)
  | .symbols => (s, .ok (.symbols m.symbols.entries))
  | .layout => (s, .ok (.layout Register.layout))
  | .listing start count => (s, .ok (.listing (space.listing start count.toNat)))
  | .operation address => (s, .ok (.operation (space.operationAt address)))

end Session

end Dcpu16
