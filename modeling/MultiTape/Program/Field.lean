import MultiTape.Alphabet
import MultiTape.Program.Format
import MultiTape.Transition

/-!
# Fields of program text

The tokens that program text is made of: counts, state numbers, symbols and head moves, and the
transitions made of them. Each reader is told the line its text stands in, for the fault it may
report.

## Main definitions

* `Program.count`, `Program.stateId`, `Program.symbol`, `Program.move`: readers of one token
* `Program.transition`: the reader of a transition line
-/

namespace MultiTape

namespace Program

/-- Reads an integer. -/
def integer (line : Int) (token : Text) : Except FormatError Int :=
  (Numeral.read token).mapError fun _ => ⟨line, .notInteger token⟩

/-- Reads a count, which may have blanks around it. -/
def count (line : Int) (t : Text) : Except FormatError Nat := do
  let n ← integer line (Text.trim t)
  if n < 0 then .error ⟨line, .negativeCount n⟩ else pure n.toNat

/-- Reads the number of one of `numStates` states. -/
def stateId (numStates line : Int) (token : Text) : Except FormatError Int := do
  let n ← integer line token
  if 0 ≤ n ∧ n < numStates then pure n else .error ⟨line, .stateOutOfRange n⟩

/-- Reads the numbers of states that stand in a line, in order. -/
def stateIds (numStates line : Int) (t : Text) : Except FormatError (List Int) :=
  (Text.words t).mapM (stateId numStates line)

/-- Reads a symbol of the alphabet. -/
def symbol (alphabet : Alphabet) (line : Int) (token : Text) : Except FormatError Symbol :=
  if alphabet.isSymbol token then .ok token else .error ⟨line, .invalidSymbol token⟩

/-- Reads a head move. -/
def move (line : Int) (token : Text) : Except FormatError Move :=
  (Move.read token).mapError fun _ => ⟨line, .invalidMove token⟩

/-- Successive items two by two; an odd one at the end is left out. -/
def pairs {α : Type} : List α → List (α × α)
  | a :: b :: rest => (a, b) :: pairs rest
  | _ => []

/-- Reads a symbol to be written and the move after it. -/
def effect (alphabet : Alphabet) (line : Int) (tokens : Text × Text) :
    Except FormatError (Symbol × Move) := do
  let s ← symbol alphabet line tokens.1
  let m ← move line tokens.2
  pure (s, m)

/-- Reads a transition for `width` work tapes: the source, the input symbol, `width` symbols read,
the target, the input move, and `width` pairs of a symbol written and a move. -/
def transition (alphabet : Alphabet) (width : Nat) (numStates line : Int) (t : Text) :
    Except FormatError Transition := do
  let tokens := Text.words t
  if tokens.length ≠ 3 * width + 4 then
    .error ⟨line, .fieldCount (3 * width + 4 : Nat) tokens.length⟩
  let source ← stateId numStates line (tokens.getD 0 [])
  let input ← symbol alphabet line (tokens.getD 1 [])
  let reads ← ((tokens.drop 2).take width).mapM (symbol alphabet line)
  let target ← stateId numStates line (tokens.getD (2 + width) [])
  let inputMove ← move line (tokens.getD (3 + width) [])
  let effects ← (pairs (tokens.drop (4 + width))).mapM (effect alphabet line)
  pure ⟨source, input, reads, target, inputMove, effects.map Prod.fst, effects.map Prod.snd⟩

/-- Why a line is no transition for a number of tapes that may be negative. -/
inductive RecordError where
  /-- The line is at fault. -/
  | format (e : FormatError)
  /-- The line has as many tokens as the formula for their number gives, but not as many as a
  transition needs. -/
  | missingToken
  /-- The number of tokens is wrong, and the right one has too many digits to be shown. -/
  | countTooLong
  deriving DecidableEq, Repr

/-- The wording for a line that is no transition. -/
def RecordError.message : RecordError → Text
  | .format e => e.message
  | .missingToken => "list index out of range".toText
  | .countTooLong => Numeral.limitMessage []

/-- Reads a transition for any number of tapes besides the output tape. With fewer than minus one
there is no such line: either the number of its tokens is wrong or its second token is missing. -/
def transitionFor (alphabet : Alphabet) (numTapes numStates line : Int) (t : Text) :
    Except RecordError Transition :=
  let tokens := Text.words t
  let expected := 3 * numTapes + 7
  if (tokens.length : Int) ≠ expected then
    if Numeral.isTooLong expected then .error .countTooLong
    else .error (.format ⟨line, .fieldCount expected tokens.length⟩)
  else if -1 ≤ numTapes then
    (transition alphabet (numTapes + 1).toNat numStates line t).mapError .format
  else match stateId numStates line (tokens.getD 0 []) with
    | .ok _ => .error .missingToken
    | .error e => .error (.format e)

end Program

end MultiTape
