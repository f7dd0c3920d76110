import MultiTape.Machine.Basic

/-!
# Runs

A run repeats the step until the machine has stopped. An observer is told of every transition that
fired and may end the run. The number of steps is bounded by fuel, and a run that uses it up is kept
apart from one that ended.

## Main definitions

* `Machine.run`: the run from a configuration
* `Machine.transform`: what a word becomes on the output tape
* `Machine.accepts`: whether a word is accepted
* `Observer.silent`, `Observer.record`, `Observer.stopAfter`: observers
-/

namespace MultiTape

/-- Told of each transition that fired and of the configuration right after it, an observer updates
what it has noted and may end the run for a reason. -/
abbrev Observer (σ ε : Type) := σ → Transition → Config → σ × Option ε

namespace Observer

/-- Notes nothing and never ends a run. -/
def silent : Observer Unit Empty := fun _ _ _ => ((), none)

/-- Notes every transition with the configuration after it, the latest first, and ends the run as
soon as it has noted `limit` of them. -/
def record (limit : Option Nat) : Observer (List (Transition × Config)) Nat := fun seen t c =>
  let seen := (t, c) :: seen
  (seen, if limit = some seen.length then some seen.length else none)

/-- Counts the transitions and ends the run at the one with number `limit`. -/
def stopAfter (limit : Option Nat) : Observer Nat Nat := fun count _ _ =>
  (count + 1, if limit = some (count + 1) then some (count + 1) else none)

end Observer

namespace Machine

/-- Why a run ended. -/
inductive Ending (ε : Type) where
  /-- The machine stopped. -/
  | halted
  /-- A step failed. -/
  | failed (e : Fault)
  /-- The observer ended the run. -/
  | stopped (e : ε)
  /-- The fuel was used up. -/
  | outOfFuel
  deriving DecidableEq, Repr

/-- How a run ended, how many transitions fired, what the observer noted, and where the machine
stands. -/
structure Run (σ ε : Type) where
  /-- Why the run ended. -/
  ending : Ending ε
  /-- The number of transitions that fired. -/
  steps : Nat
  /-- What the observer noted. -/
  noted : σ
  /-- Where the machine stands. -/
  config : Config

variable {σ ε : Type}

/-- Repeats the step, `steps` transitions having fired before. -/
def runFrom (m : Machine) (observe : Observer σ ε) : Nat → Nat → σ → Config → Run σ ε
  | 0, steps, noted, c => ⟨.outOfFuel, steps, noted, c⟩
  | fuel + 1, steps, noted, c =>
    match m.step c with
    | (.halted, c) => ⟨.halted, steps, noted, c⟩
    | (.failed e, c) => ⟨.failed e, steps, noted, c⟩
    | (.fired t, c) =>
      match observe noted t c with
      | (noted, none) => runFrom m observe fuel (steps + 1) noted c
      | (noted, some e) => ⟨.stopped e, steps + 1, noted, c⟩

/-- Repeats the step until the machine has stopped, at most `fuel` times. -/
def run (m : Machine) (observe : Observer σ ε) (fuel : Nat) (noted : σ) (c : Config) :
    Run σ ε :=
  m.runFrom observe fuel 0 noted c

/-! ### Queries -/

/-- Why a query has no answer. -/
inductive Interruption (ε : Type) where
  /-- The machine failed. -/
  | failed (e : Fault)
  /-- The observer ended the run. -/
  | stopped (e : ε)
  /-- The fuel was used up. -/
  | outOfFuel
  deriving DecidableEq, Repr

/-- The answer to a query, what the observer noted, and where the machine stands afterwards. -/
structure Query (σ ε α : Type) where
  /-- The answer, or why there is none. -/
  answer : Except (Interruption ε) α
  /-- What the observer noted. -/
  noted : σ
  /-- Where the machine stands. -/
  config : Config

/-- The answer that `conclude` draws from where a run stopped. With an answer the machine is put
back to its start; without one it stays where the run left it. -/
def conclude {α : Type} (m : Machine) (run : Run σ ε)
    (answer : Config → Except Fault α) : Query σ ε α :=
  match run.ending with
  | .halted =>
    match answer run.config with
    | .ok a => ⟨.ok a, run.noted, m.initial []⟩
    | .error e => ⟨.error (.failed e), run.noted, run.config⟩
  | .failed e => ⟨.error (.failed e), run.noted, run.config⟩
  | .stopped e => ⟨.error (.stopped e), run.noted, run.config⟩
  | .outOfFuel => ⟨.error .outOfFuel, run.noted, run.config⟩

/-- What a word becomes: the output tape after the run, without the blanks at its ends. -/
def transform (m : Machine) (observe : Observer σ ε) (fuel : Nat) (noted : σ) (word : Text) :
    Query σ ε Text :=
  m.conclude (m.run observe fuel noted (m.initial word)) fun c =>
    c.output.map fun tape => m.alphabet.trim tape.text

/-- Whether a word is accepted: whether the run ends in an accepting state. In an accepting start
state no run is needed. -/
def accepts (m : Machine) (observe : Observer σ ε) (fuel : Nat) (noted : σ) (word : Text) :
    Query σ ε Bool :=
  let c := m.initial word
  if (m.active c).isAccepting then ⟨.ok true, noted, m.initial []⟩
  else m.conclude (m.run observe fuel noted c) fun c => .ok (m.active c).isAccepting

end Machine

end MultiTape
