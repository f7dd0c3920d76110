import MultiTape.Machine.Basic
import MultiTape.Program.Field

/-!
# Program text

Program text describes a machine line by line: the number of states, the number of work tapes
besides the output tape, the start state, the halting states, the accepting states, and then one
transition a line. Lines whose first character that is not blank is `#` are comments and stand
anywhere; blank lines stand between transitions. An empty line lists no states.

## Main definitions

* `Program.codeLines`: the numbered lines that are no comments
* `Program.Header`, `Program.header`: the five lines before the transitions
* `Program.load`: the machine of a text, or the first fault
-/

namespace MultiTape

namespace Program

/-- A line with its number, counted from one. -/
abbrev NumberedLine := Nat × Text

/-- Whether a line is a comment. -/
def isComment (line : Text) : Bool := (Text.trim line).head? == some (.char '#')

/-- The lines of a text with their numbers. -/
def numberedLines (t : Text) : List NumberedLine :=
  (Text.lines t).zipIdx.map fun (line, i) => (i + 1, line)

/-- The lines that are no comments, with their numbers. -/
def codeLines (t : Text) : List NumberedLine :=
  (numberedLines t).filter fun (_, line) => !isComment line

/-! ### Header -/

/-- What the lines before the transitions say. -/
structure Header where
  /-- The number of states. -/
  numStates : Nat
  /-- The number of work tapes besides the output tape. -/
  numTapes : Nat
  /-- The start state. -/
  start : Int
  /-- The halting states. -/
  halting : List Int
  /-- The accepting states, all of them halting. -/
  accepting : List Int
  deriving DecidableEq, Repr

/-- The first of the lines left and those after it; `last` is the number of the line before. -/
def nextLine (last : Nat) :
    List NumberedLine → Except FormatError (NumberedLine × List NumberedLine)
  | [] => .error ⟨last + 1, .endOfText⟩
  | line :: rest => .ok (line, rest)

/-- Reads the header and leaves the lines after it. -/
def header (lines : List NumberedLine) : Except FormatError (Header × List NumberedLine) := do
  let ((number, line), lines) ← nextLine 0 lines
  let numStates ← count number line
  let ((number, line), lines) ← nextLine number lines
  let numTapes ← count number line
  let ((number, line), lines) ← nextLine number lines
  let start ← stateId numStates number (Text.trim line)
  let ((number, line), lines) ← nextLine number lines
  let halting ← stateIds numStates number line
  let ((number, line), lines) ← nextLine number lines
  let accepting ← stateIds numStates number line
  if accepting.all halting.contains then
    pure (⟨numStates, numTapes, start, halting, accepting⟩, lines)
  else .error ⟨number, .acceptingNotHalting⟩

/-- The machine of a header, which has no transitions yet. -/
def Header.machine (h : Header) (alphabet : Alphabet) : Machine where
  numTapes := h.numTapes
  start := h.start
  startIndex := h.start.toNat
  alphabet := alphabet
  states := Machine.emptyStates h.numStates h.halting h.accepting

/-! ### Transitions -/

/-- Reads the transitions of the lines, skipping blank lines. `seen` are the guards of those before:
each guard may occur once. -/
def transitions (alphabet : Alphabet) (width : Nat) (numStates : Int) :
    List Guard → List NumberedLine → Except FormatError (List Transition)
  | _, [] => .ok []
  | seen, (number, line) :: rest =>
    if (Text.trim line).isEmpty then transitions alphabet width numStates seen rest
    else do
      let t ← transition alphabet width numStates number line
      if seen.contains t.guard then .error ⟨number, .nondeterministic⟩
      else
        let more ← transitions alphabet width numStates (t.guard :: seen) rest
        pure (t :: more)

/-- A machine with transitions added, each to the state that its source numbers. -/
def addAll (m : Machine) (ts : List Transition) : Machine :=
  ts.foldl (fun m t => m.addAt t.source.toNat t) m

/-- The machine of a program text, or the first fault in it. -/
def load (alphabet : Alphabet) (t : Text) : Except FormatError Machine := do
  let (h, lines) ← header (codeLines t)
  let ts ← transitions alphabet (h.numTapes + 1) h.numStates [] lines
  pure (addAll (h.machine alphabet) ts)

end Program

end MultiTape
