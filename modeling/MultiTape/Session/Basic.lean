import MultiTape.Console
import MultiTape.Machine.Listing
import MultiTape.Machine.Run
import MultiTape.Program.File
import MultiTape.RunLog
import MultiTape.Session.Command
import MultiTape.Settings.File

/-!
# Sessions

A session holds the settings, the machine of the program loaded last with the path it was loaded
from, and the log if queries are logged. Each command prints text on a console, may change the
session, and may add to the log files.

## Main definitions

* `Session`: the sessions; `Session.start` begins one
* `Session.perform`: performs a command
* `Session.execute`: performs the command of a line
* `Session.Reply`: the outcome of a command, what it printed, and what it left
-/

namespace MultiTape

/-- A loaded program: its machine, where the machine stands, and the path of the file. -/
structure Loaded where
  /-- The machine. -/
  machine : Machine
  /-- Where the machine stands. -/
  config : Config
  /-- The path as it was entered. -/
  path : Text

/-- The state of an interactive session. -/
structure Session where
  /-- The settings. -/
  settings : Settings
  /-- The program loaded last. -/
  loaded : Option Loaded
  /-- The log, if queries are logged. -/
  log : Option RunLog

namespace Session

/-! ### Starting -/

/-- Why a session cannot start. -/
inductive StartError where
  /-- The directory of the log files could not be made. -/
  | file (e : FileTree.Error)
  /-- The directory of the log files is given by a value of this kind, which is no path. -/
  | notPath (kind : Text)
  deriving DecidableEq, Repr

/-- The wording for a session that cannot start. -/
def StartError.message : StartError → Text
  | .file e => e.message
  | .notPath kind => Path.notPathMessage kind

/-- Starts a session without a program, and the log if the settings ask for one. -/
def start (settings : Settings) (files : FileTree) (now : Clock) :
    Except StartError Session × FileTree :=
  if (settings.get .logRuns).truthy then
    match settings.get .outputDirectory with
    | .str directory =>
      match RunLog.start files directory (settings.text .logFileStem) now with
      | (.ok log, files) => (.ok ⟨settings, none, some log⟩, files)
      | (.error e, files) => (.error (.file e), files)
    | v => (.error (.notPath v.kindName), files)
  else (.ok ⟨settings, none, none⟩, files)

/-! ### Replies -/

/-- Why a command was broken off. -/
inductive Error where
  /-- The settings give no alphabet. -/
  | alphabet (e : Alphabet.Error)
  /-- The program file is no text. -/
  | undecodable (e : Utf8.Fault)
  /-- The machine failed. -/
  | machine (e : Machine.Fault)
  /-- The log file could not be written. -/
  | file (e : FileTree.Error)
  /-- The run did not end within the fuel. -/
  | outOfFuel

/-- The wording for a command that was broken off. -/
def Error.message : Error → Text
  | .alphabet e => e.message
  | .undecodable e => e.message
  | .machine e => e.message
  | .file e => e.message
  | .outOfFuel => "the run did not end".toText

/-- What came of a command. -/
structure Reply where
  /-- Whether the session goes on, or why the command was broken off. -/
  outcome : Except Error Bool
  /-- What was printed. -/
  out : Text
  /-- The session afterwards. -/
  session : Session
  /-- The files afterwards. -/
  files : FileTree

/-- A reply that prints a text and changes nothing. -/
def say (s : Session) (files : FileTree) (out : Text) : Reply := ⟨.ok true, out, s, files⟩

/-- A reply that prints an error message and changes nothing. -/
def sayError (s : Session) (console : Console) (files : FileTree) (message : String) : Reply :=
  s.say files (console.printError message.toText)

/-- The alphabet of the session. -/
def alphabet (s : Session) : Except Alphabet.Error Alphabet := s.settings.alphabet

/-! ### Loading -/

/-- Loads the program of a file. Without success the session stays as it is. -/
def insert (s : Session) (console : Console) (files : FileTree) : Option Text → Reply
  | none => s.sayError console files "Wrong amount of input!"
  | some path =>
    match s.alphabet with
    | .error e => ⟨.error (.alphabet e), [], s, files⟩
    | .ok alphabet =>
      match Program.loadFile files alphabet path with
      | .ok m => ⟨.ok true, [], { s with loaded := some ⟨m, m.initial [], path⟩ }, files⟩
      | .error (.missing _) => s.sayError console files "No file found!"
      | .error (.format e) =>
        s.say files (console.printError ("Parsing not possible! ".toText ++ e.message))
      | .error (.file _) => s.sayError console files "Fault at IO!"
      | .error (.undecodable e) => ⟨.error (.undecodable e), [], s, files⟩

/-! ### Queries -/

/-- The word that a query is about: the empty one if none is given, and nothing if the one given is
no word of the alphabet. -/
def queryWord (s : Session) : Option Text → Except Error (Option Text)
  | none => .ok (some [])
  | some word =>
    match s.alphabet with
    | .error e => .error (.alphabet e)
    | .ok alphabet => .ok (if alphabet.isWord word then some word else none)

/-- The modes under which queries are recorded. -/
inductive Mode where
  /-- What a word becomes. -/
  | transform
  /-- Whether a word is accepted. -/
  | decide
  deriving DecidableEq, Repr

/-- The name of a mode. -/
def Mode.name : Mode → Text
  | .transform => "transform".toText
  | .decide => "decide".toText

/-- Records an answered query in the log, if there is one, and then prints the answer behind what
was printed before. -/
def finish (s : Session) (console : Console) (files : FileTree) (now : Clock) (l : Loaded)
    (entry : RunEntry) (before answer : Text) : Reply :=
  let s := { s with loaded := some l }
  match s.log with
  | none => ⟨.ok true, before ++ console.print answer, s, files⟩
  | some log =>
    match log.record files now entry with
    | (log, .ok files) =>
      ⟨.ok true, before ++ console.print answer, { s with log := some log }, files⟩
    | (log, .error e) => ⟨.error (.file e), before, { s with log := some log }, files⟩

/-- Asks the loaded machine about a word. `ask` gives the query and what it prints meanwhile,
`result` the recorded form of an answer and `shown` its printed form. -/
def answer {σ α : Type} (s : Session) (console : Console) (files : FileTree) (now : Clock)
    (mode : Mode) (word : Option Text) (ask : Machine → Text → Machine.Query σ Empty α)
    (printed : σ → Text) (result : α → Json) (shown : α → Text) : Reply :=
  match s.loaded with
  | none => s.sayError console files "No machine loaded!"
  | some l =>
    match s.queryWord word with
    | .error e => ⟨.error e, [], s, files⟩
    | .ok none => s.sayError console files "Not matching the alphabet!"
    | .ok (some word) =>
      let query := ask l.machine word
      let l := { l with config := query.config }
      match query.answer with
      | .ok a =>
        s.finish console files now l ⟨mode.name, word, result a, some l.path⟩
          (printed query.noted) (shown a)
      | .error (.failed e) =>
        ⟨.error (.machine e), printed query.noted, { s with loaded := some l }, files⟩
      | .error .outOfFuel =>
        ⟨.error .outOfFuel, printed query.noted, { s with loaded := some l }, files⟩

/-- Shows what a word becomes. -/
def run (s : Session) (console : Console) (files : FileTree) (now : Clock) (fuel : Nat)
    (word : Option Text) : Reply :=
  s.answer console files now .transform word (fun m => m.transform Observer.silent fuel ())
    (fun _ => []) .str id

/-- Shows whether a word is accepted. -/
def check (s : Session) (console : Console) (files : FileTree) (now : Clock) (fuel : Nat)
    (word : Option Text) : Reply :=
  s.answer console files now .decide word (fun m => m.accepts Observer.silent fuel ())
    (fun _ => []) .bool fun accepted => (if accepted then "accept" else "reject").toText

/-- What the trace prints for a transition and the configuration after it. -/
def stepListing (console : Console) (m : Machine) (t : Transition) (c : Config) : Text :=
  console.styled .cyan [] t.render ++ (m.view c).flatMap console.print

/-- Notes what is printed for each step, the latest first. -/
def tracer (console : Console) (m : Machine) : Observer (List Text) Empty := fun printed t c =>
  (stepListing console m t c :: printed, none)

/-- Shows every step and then what a word becomes. -/
def trace (s : Session) (console : Console) (files : FileTree) (now : Clock) (fuel : Nat)
    (word : Option Text) : Reply :=
  s.answer console files now .transform word (fun m => m.transform (tracer console m) fuel [])
    (fun printed => printed.reverse.flatten) .str id

/-! ### Listings -/

/-- Shows all transitions: an empty line without a machine, and nothing for a machine without
transitions. -/
def print (s : Session) (console : Console) (files : FileTree) : Reply :=
  match s.loaded with
  | none => s.say files (console.print [])
  | some l =>
    let program := l.machine.describe
    s.say files (if program.isEmpty then [] else console.print program)

/-- Shows the transition table. -/
def table (s : Session) (console : Console) (files : FileTree) : Reply :=
  match s.loaded with
  | none => s.sayError console files "No machine loaded!"
  | some l => s.say files (console.printTable (l.machine.table Machine.tableTitle))

/-- The commands. -/
def helpLines : List Text :=
  ["Available commands:".toText,
    "Load a new machine: insert <program file>".toText,
    "Run a word to get the result: run [word]".toText,
    "Run a word and show the tapes after every step: trace [word]".toText,
    "Check if the machine accepts a word: check [word]".toText,
    "Print all transitions: print".toText,
    "Show the transition table: table".toText,
    "Exit: quit".toText]

/-! ### Performing -/

/-- Performs a command. -/
def perform (s : Session) (console : Console) (files : FileTree) (now : Clock) (fuel : Nat) :
    Command → Reply
  | .nothing => s.sayError console files "Empty command"
  | .quit => ⟨.ok false, [], s, files⟩
  | .insert path => s.insert console files path
  | .run word => s.run console files now fuel word
  | .trace word => s.trace console files now fuel word
  | .check word => s.check console files now fuel word
  | .print => s.print console files
  | .table => s.table console files
  | .help => s.say files (helpLines.flatMap console.print)
  | .unknown => s.sayError console files "Unknown command."

/-- Performs the command of a line. -/
def execute (s : Session) (console : Console) (files : FileTree) (now : Clock) (fuel : Nat)
    (line : Text) : Reply :=
  s.perform console files now fuel (Command.ofLine line)

end Session

end MultiTape
