import MultiTape.Text.Quoted

/-!
# Faults in program text

A fault names the line it was found in, counted from one, and its reason.
-/

namespace MultiTape

namespace Program

/-- What is wrong with a line of program text. -/
inductive Reason where
  /-- The text ends before the five header lines. -/
  | endOfText
  /-- A token is no numeral. -/
  | notInteger (token : Text)
  /-- A number of things is negative. -/
  | negativeCount (value : Int)
  /-- A numeral names no state. -/
  | stateOutOfRange (id : Int)
  /-- An accepting state is not among the halting states. -/
  | acceptingNotHalting
  /-- A transition has the wrong number of tokens. -/
  | fieldCount (expected : Int) (found : Nat)
  /-- A token is no symbol of the alphabet. -/
  | invalidSymbol (token : Text)
  /-- A token is no head move. -/
  | invalidMove (token : Text)
  /-- A transition with the same guard came before. -/
  | nondeterministic
  deriving DecidableEq, Repr

/-- The wording of a reason. -/
def Reason.message : Reason → Text
  | .endOfText => "unexpected end of file".toText
  | .notInteger token => "not an integer: ".toText ++ Text.quoted token
  | .negativeCount value => "negative count: ".toText ++ Text.decimal value
  | .stateOutOfRange id => "state id out of range: ".toText ++ Text.decimal id
  | .acceptingNotHalting => "accepting states must also be halting states".toText
  | .fieldCount expected found =>
    "expected ".toText ++ Text.decimal expected ++ " fields, got ".toText ++ Text.decimal found
  | .invalidSymbol token => "invalid symbol: ".toText ++ Text.quoted token
  | .invalidMove token => "invalid head move: ".toText ++ Text.quoted token
  | .nondeterministic => "nondeterministic transition".toText

/-- A fault in program text. -/
structure FormatError where
  /-- The line of the fault. -/
  line : Int
  /-- What is wrong with it. -/
  reason : Reason
  deriving DecidableEq, Repr

/-- The wording for a faulty line; an empty reason is left out. -/
def malformedLine (line : Int) (reason : Text) : Text :=
  "Malformed file at line: ".toText ++ Text.decimal line ++ [.char '!'] ++
    if reason.isEmpty then [] else " (".toText ++ reason ++ [.char ')']

/-- The wording of a fault. -/
def FormatError.message (e : FormatError) : Text := malformedLine e.line e.reason.message

end Program

end MultiTape
