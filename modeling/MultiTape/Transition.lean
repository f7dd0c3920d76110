import MultiTape.Move
import MultiTape.Tape

/-!
# Transitions

A transition says in which state, and for which symbols under the heads, it fires, and what it then
does: it writes and moves every work tape, moves the input tape and names the next state.

Nothing here asks a transition to fit a machine. Lists of different lengths are paired up as far as
both go, so what a transition does is defined for all of them.

## Main definitions

* `Rule`: the common shape; `Record` has plain displacements, `Transition` has moves
* `Rule.guard`: the part that decides whether a transition fires
* `Record.check`: the transition of a record whose displacements are moves
* `Record.apply`, `Transition.apply`: the effect on the tapes
* `Record.render`, `Transition.render`: the text of a transition
-/

namespace MultiTape

/-- What a transition waits for and does, with moves of the kind `μ`. State numbers may be any
integers; whether they name a state is up to the machine. -/
structure Rule (μ : Type) where
  /-- The state in which it fires. -/
  source : Int
  /-- The symbol on the input tape. -/
  input : Symbol
  /-- The symbols on the work tapes. -/
  reads : List Symbol
  /-- The next state. -/
  target : Int
  /-- The move of the input tape's head. -/
  inputMove : μ
  /-- The symbols to be written on the work tapes. -/
  writes : List Symbol
  /-- The moves of the work tapes' heads. -/
  moves : List μ
  deriving DecidableEq, Repr

/-- A transition as it is written down, where a move is any displacement. -/
abbrev Record := Rule Int

/-- A transition whose displacements are moves. -/
abbrev Transition := Rule Move

/-- What decides whether a transition fires: the state and the symbols under the heads. -/
structure Guard where
  /-- The number of the state. -/
  state : Int
  /-- The symbol on the input tape. -/
  input : Symbol
  /-- The symbols on the work tapes. -/
  reads : List Symbol
  deriving DecidableEq, Repr

namespace Rule

variable {μ : Type}

/-- The part of a transition that decides whether it fires. -/
def guard (r : Rule μ) : Guard := ⟨r.source, r.input, r.reads⟩

/-- Whether a transition fires in a state with these symbols under the heads. -/
def fires (r : Rule μ) (state : Int) (input : Symbol) (reads : List Symbol) : Bool :=
  r.guard == ⟨state, input, reads⟩

/-- Writes and moves the work tapes in order, as far as there are tapes, symbols and displacements;
tapes left over stay as they are. -/
def driveTapes : List (Symbol × Int) → List Tape → List Tape
  | (s, d) :: effects, tape :: tapes => (tape.write s).shift d :: driveTapes effects tapes
  | _, tapes => tapes

/-- The part of a rule's text before the arrow. -/
def renderGuard (r : Rule μ) : Text :=
  .char '(' :: List.intercalate ", ".toText (Text.decimal r.source :: r.input :: r.reads) ++
    [.char ')']

/-- The text of a rule whose moves have been put into words. -/
def renderWith (r : Rule μ) (inputMove : Text) (effects : List (Symbol × Text)) : Text :=
  r.renderGuard ++ " -> (".toText ++
    List.intercalate ", ".toText
      (Text.decimal r.target :: inputMove :: effects.flatMap fun (s, move) => [s, move]) ++
    [.char ')']

end Rule

namespace Record

/-- The effect on the input tape and the work tapes: the input tape is only moved. -/
def apply (r : Record) (input : Tape) (work : List Tape) : Tape × List Tape :=
  (input.shift r.inputMove, Rule.driveTapes (r.writes.zip r.moves) work)

/-- The transition of a record, unless one of its displacements is no move: then the first of them,
the input tape's before the work tapes'. -/
def check (r : Record) : Except Move.Invalid Transition := do
  let inputMove ← Move.ofInt r.inputMove
  let moves ← r.moves.mapM Move.ofInt
  pure ⟨r.source, r.input, r.reads, r.target, inputMove, r.writes, moves⟩

/-- The text of a record; it needs the displacements that belong to a written symbol to be moves. -/
def render (r : Record) : Except Move.Invalid Text := do
  let inputMove ← Move.ofInt r.inputMove
  let effects ← (r.writes.zip r.moves).mapM fun (s, d) => do
    let move ← Move.ofInt d
    pure (s, move.render)
  pure (r.renderWith inputMove.render effects)

end Record

namespace Transition

/-- The record of a transition. -/
def toRecord (t : Transition) : Record :=
  ⟨t.source, t.input, t.reads, t.target, t.inputMove.offset, t.writes, t.moves.map Move.offset⟩

/-- The effect on the input tape and the work tapes: the input tape is only moved. -/
def apply (t : Transition) (input : Tape) (work : List Tape) : Tape × List Tape :=
  (input.shift t.inputMove.offset,
    Rule.driveTapes (t.writes.zip (t.moves.map Move.offset)) work)

/-- The symbols written on the work tapes with the moves that follow, in words. -/
def effects (t : Transition) : List (Symbol × Text) := t.writes.zip (t.moves.map Move.render)

/-- The text of a transition. -/
def render (t : Transition) : Text := t.renderWith t.inputMove.render t.effects

end Transition

end MultiTape
