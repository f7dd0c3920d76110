import MultiTape.Transition

/-!
# States

A state has a number, a kind and its transitions. Of several transitions that fire the first counts.
-/

namespace MultiTape

/-- What it means to be in a state. -/
inductive StateKind where
  /-- The machine goes on if a transition fires. -/
  | running
  /-- The machine stops. -/
  | halting
  /-- The machine stops and accepts its word. -/
  | accepting
  deriving DecidableEq, Repr

namespace StateKind

/-- The kind of a state by the lists that name it: accepting wins over halting. -/
def classify (state : Int) (halting accepting : List Int) : StateKind :=
  if accepting.contains state then .accepting
  else if halting.contains state then .halting
  else .running

/-- The name of a kind. -/
def name : StateKind → Text
  | .running => "RUNNING".toText
  | .halting => "HALTING".toText
  | .accepting => "ACCEPTING".toText

/-- The value under which a kind is exchanged. -/
def value : StateKind → Text
  | .running => "running".toText
  | .halting => "halting".toText
  | .accepting => "accepting".toText

end StateKind

/-- A state with its transitions in the order they were added. -/
structure State where
  /-- The number of the state. -/
  id : Int
  /-- What it means to be in it. -/
  kind : StateKind
  /-- Its transitions. -/
  transitions : List Transition
  deriving DecidableEq, Repr

namespace State

/-- A state without transitions that nobody can leave. -/
instance : Inhabited State := ⟨⟨0, .halting, []⟩⟩

/-- Whether the machine may go on from the state. -/
def isRunning (s : State) : Bool := s.kind == .running

/-- Whether the machine accepts in the state. -/
def isAccepting (s : State) : Bool := s.kind == .accepting

/-- Adds a transition behind the others. -/
def add (s : State) (t : Transition) : State := { s with transitions := s.transitions ++ [t] }

/-- The first transition that fires for these symbols. -/
def find? (s : State) (input : Symbol) (reads : List Symbol) : Option Transition :=
  s.transitions.find? fun t => t.fires s.id input reads

/-- The position of the first transition that fires for these symbols. -/
def findIdx? (s : State) (input : Symbol) (reads : List Symbol) : Option Nat :=
  s.transitions.findIdx? fun t => t.fires s.id input reads

/-- The texts of the transitions, sorted. -/
def describe (s : State) : List Text := Text.sort (s.transitions.map Transition.render)

/-- A state as listings show it. -/
def display (s : State) : Text :=
  "State(".toText ++ Text.decimal s.id ++ ", ".toText ++ s.kind.name ++ ", ".toText ++
    Text.decimal s.transitions.length ++ " transitions)".toText

end State

end MultiTape
