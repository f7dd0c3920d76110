import MultiTape.Machine.Basic
import MultiTape.Table

/-!
# The transition table of a machine

One row for each transition, state by state and sorted by their texts within each; a state without
transitions has one row of dashes. The start state is marked with a star.
-/

namespace MultiTape

/-- The colour in which a kind is shown. -/
def StateKind.color : StateKind → Text
  | .running => "cyan".toText
  | .halting => "yellow".toText
  | .accepting => "green".toText

/-- A kind in its colour. -/
def StateKind.markedUp (kind : StateKind) : Text :=
  .char '[' :: kind.color ++ .char ']' :: kind.name ++ "[/".toText ++ kind.color ++ [.char ']']

namespace Machine

/-- The title of the table unless another is asked for. -/
def tableTitle : Text := "Transition Table".toText

/-- The columns of the table. -/
def tableColumns : List Column :=
  [⟨"State".toText, .center⟩, ⟨"Kind".toText, .center⟩,
    ⟨"Read (in, tapes)".toText, .left⟩, ⟨"Target".toText, .center⟩,
    ⟨"Write/Move".toText, .left⟩]

/-- The number of a state, with a star after the start state's. -/
def stateCell (m : Machine) (s : State) : Text :=
  Text.decimal s.id ++ if s.id = m.start then [.char '*'] else []

/-- The symbols under the heads for which a transition fires. -/
def readCell (t : Transition) : Text := List.intercalate [.char ' '] (t.input :: t.reads)

/-- The input move, and for each work tape the symbol written with the move after it. -/
def writeCell (t : Transition) : Text :=
  List.intercalate [.char ' '] (t.inputMove.render :: t.effects.map fun (s, move) => s ++ move)

/-- The row of a transition. -/
def transitionRow (m : Machine) (s : State) (t : Transition) : List Text :=
  [m.stateCell s, s.kind.markedUp, readCell t, Text.decimal t.target, writeCell t]

/-- The row of a state without transitions. -/
def placeholderRow (m : Machine) (s : State) : List Text :=
  [m.stateCell s, s.kind.markedUp, ['-'], ['-'], ['-']]

/-- The transitions of a state sorted by their texts, those of equal texts in the order of adding.
-/
def sortedTransitions (s : State) : List Transition :=
  s.transitions.mergeSort fun a b => Text.le a.render b.render

/-- The rows of a state. -/
def stateRows (m : Machine) (s : State) : List (List Text) :=
  match sortedTransitions s with
  | [] => [m.placeholderRow s]
  | ts => ts.map (m.transitionRow s)

/-- The transition table. -/
def table (m : Machine) (title : Text) : Table :=
  ⟨title, tableColumns, m.states.flatMap m.stateRows⟩

end Machine

end MultiTape
