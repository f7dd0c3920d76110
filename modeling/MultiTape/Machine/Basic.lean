import MultiTape.Alphabet
import MultiTape.State

/-!
# Deterministic multi-tape Turing machines

A machine reads its word from an input tape that it never writes, and works on one output tape and
any number of further work tapes. Its states are numbered from zero.

Machines are not checked for sense: a transition may belong to no state it could fire in, may have
too few or too many symbols, or may lead nowhere. What a machine does is defined for all of them;
the only faults are a state number that names no state and an output tape that is not there.

## Main definitions

* `Machine`: the machines; `Machine.build?` makes one without transitions, `Machine.add?` adds one
* `Config`: where a machine stands; `Machine.initial` before the first step
* `Machine.step`: one step, with its outcome and the configuration it leaves
-/

namespace MultiTape

/-- The states, numbers and symbols of a machine. -/
structure Machine where
  /-- The number of work tapes besides the output tape. -/
  numTapes : Int
  /-- The start state as it was asked for: a negative number counts from the last state back. -/
  start : Int
  /-- The index of the start state. -/
  startIndex : Nat
  /-- The symbols that tapes may hold. -/
  alphabet : Alphabet
  /-- The states in the order of their numbers. -/
  states : List State
  deriving DecidableEq

/-- Where a machine stands. -/
structure Config where
  /-- The index of the active state. -/
  state : Nat
  /-- Whether the machine has stopped. -/
  halted : Bool
  /-- The input tape. -/
  input : Tape
  /-- The output tape and then the further work tapes. -/
  work : List Tape
  deriving DecidableEq, Repr

namespace Machine

/-- What a machine can fail with. -/
inductive Fault where
  /-- A number that names no state. -/
  | noSuchState
  /-- A number that names no state because no list is that long. -/
  | noIndex
  /-- A machine without an output tape. -/
  | noOutputTape
  deriving DecidableEq, Repr

/-- The wording of a fault. -/
def Fault.message : Fault → Text
  | .noSuchState => "list index out of range".toText
  | .noIndex => "cannot fit 'int' into an index-sized integer".toText
  | .noOutputTape => "list index out of range".toText

/-! ### Building -/

/-- The index that a number stands for among `count` things: negative numbers count from the last
one back. -/
def index? (count : Nat) (i : Int) : Option Nat :=
  if 0 ≤ i then if i < count then some i.toNat else none
  else if 0 ≤ i + count then some (i + count).toNat else none

/-- What a number that stands for no index fails with; one beyond the signed 64-bit integers cannot
even be asked for. -/
def indexFault (i : Int) : Fault :=
  if -9223372036854775808 ≤ i ∧ i ≤ 9223372036854775807 then .noSuchState else .noIndex

/-- The number of states. -/
def numStates (m : Machine) : Nat := m.states.length

/-- The states of the given numbers without transitions. -/
def emptyStates (count : Nat) (halting accepting : List Int) : List State :=
  (List.range count).map fun (i : Nat) => ⟨i, StateKind.classify i halting accepting, []⟩

/-- A machine without transitions. A negative number of states or tapes counts as none; the start
state has to be one of the states. -/
def build? (numStates numTapes start : Int) (halting accepting : List Int) (alphabet : Alphabet) :
    Except Fault Machine :=
  match index? numStates.toNat start with
  | some i => .ok ⟨numTapes, start, i, alphabet, emptyStates numStates.toNat halting accepting⟩
  | none => .error (indexFault start)

/-- Adds a transition to the state with the given index. -/
def addAt (m : Machine) (i : Nat) (t : Transition) : Machine :=
  { m with states := m.states.modify i fun s => s.add t }

/-- Adds a transition to the state that its source names. -/
def add? (m : Machine) (t : Transition) : Except Fault Machine :=
  match index? m.numStates t.source with
  | some i => .ok (m.addAt i t)
  | none => .error (indexFault t.source)

/-- Why a record cannot be added. -/
inductive AddError where
  /-- A displacement is no move. -/
  | invalidMove (e : Move.Invalid)
  /-- The source names no state. -/
  | fault (e : Fault)
  deriving DecidableEq, Repr

/-- The wording for a record that cannot be added. -/
def AddError.message : AddError → Text
  | .invalidMove e => e.message
  | .fault e => e.message

/-- Adds the transition of a record. -/
def addRecord? (m : Machine) (r : Record) : Except AddError (Transition × Machine) := do
  let t ← r.check.mapError .invalidMove
  let m ← (m.add? t).mapError .fault
  pure (t, m)

/-! ### Configurations -/

/-- The blank as a symbol. -/
def blank (m : Machine) : Symbol := [m.alphabet.blank]

/-- Before the first step: the word on the input tape, blank work tapes, the start state. -/
def initial (m : Machine) (word : Text) : Config where
  state := m.startIndex
  halted := false
  input := Tape.ofWord m.blank word
  work := List.replicate (m.numTapes + 1).toNat (Tape.ofCells m.blank [])

/-- The state with the given index; an index without a state is a state that nobody can leave. -/
def stateAt (m : Machine) (i : Nat) : State := m.states.getD i default

/-- The active state of a configuration. -/
def active (m : Machine) (c : Config) : State := m.stateAt c.state

end Machine

namespace Config

/-- The symbols under the heads of the work tapes. -/
def symbols (c : Config) : List Symbol := c.work.map Tape.read

/-- The output tape. -/
def output (c : Config) : Except Machine.Fault Tape :=
  match c.work with
  | tape :: _ => .ok tape
  | [] => .error .noOutputTape

end Config

namespace Machine

/-! ### Steps -/

/-- The transition that fires next: none unless the machine goes on and the state is running. -/
def next? (m : Machine) (c : Config) : Option Transition :=
  if !c.halted && (m.active c).isRunning then (m.active c).find? c.input.read c.symbols else none

/-- The outcome of a step. -/
inductive Outcome where
  /-- A transition fired. -/
  | fired (t : Transition)
  /-- The machine has stopped. -/
  | halted
  /-- A transition fired whose target is no state. -/
  | failed (e : Fault)
  deriving DecidableEq, Repr

/-- One step. If a transition fires, the work tapes are written and moved, then the input tape is
moved, then the state changes; the state stays if the target is no state, though the tapes have
moved. -/
def step (m : Machine) (c : Config) : Outcome × Config :=
  match m.next? c with
  | none => (.halted, { c with halted := true })
  | some t =>
    let (input, work) := t.apply c.input c.work
    match index? m.numStates t.target with
    | some i => (.fired t, { c with state := i, input, work })
    | none => (.failed (indexFault t.target), { c with input, work })

/-! ### Listings -/

/-- The texts of the transitions, state by state and sorted within each. -/
def describeLines (m : Machine) : List Text := m.states.flatMap State.describe

/-- The texts of all transitions, one a line. -/
def describe (m : Machine) : Text := List.intercalate [.char '\n'] m.describeLines

/-- A tape with its name: a line with the cells, and one with a caret below the head. -/
def viewTape (name : Text) (tape : Tape) : List Text :=
  [Text.padLeft ' ' 3 name ++ .char ' ' :: tape.text, "    ".toText ++ tape.caret]

/-- The active state and every tape with its head, as lines: the input tape first, then the work
tapes under their numbers. -/
def view (m : Machine) (c : Config) : List Text :=
  let state := "State: ".toText ++ Text.decimal (m.active c).id ++ " (".toText ++
    (m.active c).kind.name ++ "), Halted: ".toText ++ (Json.bool c.halted).display
  state :: viewTape "in".toText c.input ++
    c.work.zipIdx.flatMap fun (tape, i) => viewTape (Text.decimal i) tape

end Machine

end MultiTape
