import MultiTape.Text.Basic

/-!
# Commands

A command line is split into words. The first letter of the first word says which command is meant,
in either case, and the second word is its argument; more words are ignored. A word that starts with
`ta` means the table, any other that starts with `t` the trace.
-/

namespace MultiTape

/-- A command of the session. -/
inductive Command where
  /-- Nothing was entered. -/
  | nothing
  /-- Ends the session. -/
  | quit
  /-- Loads the program of a file. -/
  | insert (path : Option Text)
  /-- Shows what a word becomes. -/
  | run (word : Option Text)
  /-- Shows what a word becomes, and every step. -/
  | trace (word : Option Text)
  /-- Shows whether a word is accepted. -/
  | check (word : Option Text)
  /-- Shows all transitions. -/
  | print
  /-- Shows the transition table. -/
  | table
  /-- Shows the commands. -/
  | help
  /-- No command has this letter. -/
  | unknown
  deriving DecidableEq, Repr

namespace Command

/-- The small letter of a character, where that is a plain Latin letter: capitals have one, and so
has the capital I with a dot. -/
def smallLetter : CodePoint → CodePoint
  | .char c => if c.toNat = 0x130 then 'i' else c.toLower
  | .surrogate i => .surrogate i

/-- The command of some words. -/
def ofWords : List Text → Command
  | [] => .nothing
  | name :: arguments =>
    match name.map smallLetter with
    | 'q' :: _ => .quit
    | 'i' :: _ => .insert arguments.head?
    | 'r' :: _ => .run arguments.head?
    | 'c' :: _ => .check arguments.head?
    | 't' :: 'a' :: _ => .table
    | 't' :: _ => .trace arguments.head?
    | 'p' :: _ => .print
    | 'h' :: _ => .help
    | _ => .unknown

/-- The command of a line. -/
def ofLine (line : Text) : Command := ofWords (Text.words line)

end Command

end MultiTape
