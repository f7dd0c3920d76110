import MultiTape.CommandLine.Options
import MultiTape.Session.Basic

/-!
# The command line

Three programs: the simulator, which answers the queries of its options or else starts an
interactive session; a checker of program files; and an inspector that shows their transition
tables.

## Main definitions

* `CommandLine.Tool`: the programs
* `CommandLine.start`: what a program does for given arguments, up to an interactive session
* `CommandLine.run`: what a program prints and leaves for given arguments and input
-/

namespace MultiTape

namespace CommandLine

/-- The programs. -/
inductive Tool where
  /-- The simulator. -/
  | simulator
  /-- The checker of program files. -/
  | checker
  /-- The inspector of program files. -/
  | inspector
  deriving DecidableEq, Repr

/-- Why a program broke down. -/
inductive Failure where
  /-- The settings file could not be used. -/
  | settings (e : Settings.LoadError)
  /-- The path of the settings file is too long. -/
  | settingsPath (e : FileTree.Error)
  /-- The option that names a file was given without a value. -/
  | noPath
  /-- The session could not start. -/
  | start (e : Session.StartError)
  /-- A command was broken off. -/
  | session (e : Session.Error)
  /-- The program file could not be used. -/
  | program (e : Program.LoadError)

/-- The wording of a failure. -/
def Failure.message : Failure → Text
  | .settings e => e.message
  | .settingsPath e => e.message
  | .noPath => Path.notPathMessage "list".toText
  | .start e => e.message
  | .session e => e.message
  | .program e => e.message

/-- What a program did. -/
structure Result where
  /-- The exit code, or why the program broke down. -/
  outcome : Except Failure Nat
  /-- What it printed. -/
  out : Text
  /-- What it reported about its arguments. -/
  err : Text
  /-- The files afterwards. -/
  files : FileTree

/-- A result that only prints. -/
def Result.exit (files : FileTree) (code : Nat) (out : Text) : Result :=
  ⟨.ok code, out, [], files⟩

/-! ### Arguments -/

/-- An option that takes a value. -/
def valueFlag (name value help : String) (required : Bool) : Options.Flag :=
  ⟨[name.toText], some value.toText, required, help.toText⟩

/-- An option that takes none. -/
def bareFlag (name help : String) : Options.Flag := ⟨[name.toText], none, false, help.toText⟩

/-- The arguments of a program. -/
def Tool.spec : Tool → Options.Spec
  | .simulator =>
    ⟨"dtm".toText, "Deterministic Multi-Tape Turing Machine Simulator".toText, none,
      [valueFlag "--config" "CONFIG" "Path to runtime_config.json" false,
        valueFlag "--program" "PROGRAM" "Program file to load on startup" false,
        valueFlag "--run" "WORD" "Run WORD and print the output tape" false,
        valueFlag "--check" "WORD" "Check whether the machine accepts WORD" false,
        bareFlag "--print" "Print all transitions",
        bareFlag "--inspect" "Show the transition table"]⟩
  | .checker =>
    ⟨"program_loader.py".toText, "Load and validate a Turing machine program file".toText,
      some ⟨"program".toText, "Path to the program file".toText⟩, []⟩
  | .inspector =>
    ⟨"program_inspect.py".toText, "Turing Machine Program Inspector".toText, none,
      [valueFlag "--program" "PROGRAM" "Path to the program file" true]⟩

/-! ### The simulator -/

/-- Where the settings are unless another file is named. -/
def defaultSettingsPath : Text := "config/runtime_config.json".toText

/-- Loads the settings. If the file is missing the default settings hold, but only a file that was
not named may be missing. Settings that are wrong end the program. -/
def loadSettings (console : Console) (files : FileTree) (path : Text) :
    Except Result Settings × FileTree :=
  let path := Path.normalize path
  match files.status path with
  | .error .nameTooLong =>
    (.error ⟨.error (.settingsPath ⟨.nameTooLong, path⟩), [], [], files⟩, files)
  | .error _ =>
    if path = defaultSettingsPath then (.ok Settings.default, files)
    else
      (.error (.exit files 1
        (console.printError ("Configuration file ".toText ++ path ++ " not found!".toText))), files)
  | .ok _ =>
    match Settings.loadFile files path with
    | (.ok settings, files) => (.ok settings, files)
    | (.error e, files) =>
      let invalid : Result :=
        .exit files 1 (console.printError ("Invalid configuration: ".toText ++ e.message))
      let broken : Result := ⟨.error (.settings e), [], [], files⟩
      match e with
      | .missing _ => (.error broken, files)
      | .json (.tooDeep _) => (.error broken, files)
      | .file f => (.error (if f.reason.isMalformed then invalid else broken), files)
      | _ => (.error invalid, files)

/-- A step of a batch: what to ask of the session. -/
abbrev Request := Session → FileTree → Session.Reply

/-- Asks one thing after the other as long as none is broken off. -/
def batch (s : Session) (files : FileTree) (out : Text) : List Request → Result
  | [] => .exit files 0 out
  | request :: rest =>
    let r := request s files
    match r.outcome with
    | .ok _ => batch r.session r.files (out ++ r.out) rest
    | .error e => ⟨.error (.session e), out ++ r.out, [], r.files⟩

/-- The word of an option, where an empty one counts as none. -/
def wordOf (t : Text) : Option Text := if t.isEmpty then none else some t

/-- What the options ask of the session, in the order in which it is answered. -/
def requests (console : Console) (found : Options.Found) (now : Clock) (fuel : Nat) :
    List Request :=
  let printing : List Request :=
    if found.has "--print".toText then [fun s files => s.print console files] else []
  let tables : List Request :=
    if found.has "--inspect".toText then [fun s files => s.table console files] else []
  let word (name : Text) : Option Text := (found.value? name).bind wordOf
  let runs : List Request :=
    if found.has "--run".toText then
      [fun s files => s.run console files now fuel (word "--run".toText)]
    else []
  let checks : List Request :=
    if found.has "--check".toText then
      [fun s files => s.check console files now fuel (word "--check".toText)]
    else []
  printing ++ tables ++ runs ++ checks

/-- The lines of the standard input; only line feeds end them. -/
def inputLines (t : Text) : List Text :=
  let parts := t.foldr (fun c parts => if c == .char '\n' then [] :: parts else
    match parts with
    | part :: more => (c :: part) :: more
    | [] => [[c]]) [[]]
  if parts.getLast? == some [] then parts.dropLast else parts

/-- What is printed before a line is read. -/
def prompt (console : Console) (s : Session) : Text :=
  console.prompt (s.settings.text .prompt)

/-- The interactive session: prompts, reads and performs until a command ends it or the input does.
-/
def interact (console : Console) (s : Session) (files : FileTree) (now : Clock) (fuel : Nat)
    (out : Text) : List Text → Result
  | [] => .exit files 0 (out ++ prompt console s)
  | line :: rest =>
    let r := s.execute console files now fuel line
    let out := out ++ prompt console s ++ r.out
    match r.outcome with
    | .ok true => interact console r.session r.files now fuel out rest
    | .ok false => .exit r.files 0 out
    | .error e => ⟨.error (.session e), out, [], r.files⟩

/-- How a program goes on once its arguments have been dealt with. -/
inductive Opening where
  /-- It is done. -/
  | done (result : Result)
  /-- It has printed `out` and starts an interactive session. -/
  | interactive (s : Session) (files : FileTree) (out : Text)

/-- Goes on once the session has started: loads the program that was named, then answers the options
or leaves the session to the user. -/
def openSession (console : Console) (s : Session) (files : FileTree) (found : Options.Found)
    (now : Clock) (fuel : Nat) : Opening :=
  let named := (found.value? "--program".toText).bind wordOf
  let r := match named with
    | some path => s.insert console files (some path)
    | none => s.say files []
  match r.outcome with
  | .error e => .done ⟨.error (.session e), r.out, [], r.files⟩
  | .ok _ =>
    if named.isSome && r.session.loaded.isNone then .done (.exit r.files 1 r.out)
    else match requests console found now fuel with
      | [] => .interactive r.session r.files r.out
      | asked =>
        if r.session.loaded.isNone then
          .done (.exit r.files 2 (r.out ++ console.printError
            "--program is required for --run, --check, --print and --inspect.".toText))
        else .done (batch r.session r.files r.out asked)

/-- The settings file that the options name, unless the option that names it has no value. -/
def settingsPath? (found : Options.Found) : Option Text :=
  if found.has "--config".toText then found.value? "--config".toText else some defaultSettingsPath

/-- The simulator up to an interactive session. -/
def simulate (console : Console) (files : FileTree) (found : Options.Found) (now : Clock)
    (fuel : Nat) : Opening :=
  match settingsPath? found with
  | none => .done ⟨.error .noPath, [], [], files⟩
  | some path =>
    match loadSettings console files path with
    | (.error result, _) => .done result
    | (.ok settings, files) =>
      match Session.start settings files now with
      | (.error e, files) => .done ⟨.error (.start e), [], [], files⟩
      | (.ok s, files) => openSession console s files found now fuel

/-! ### Program files -/

/-- The checker: says how many states and tapes a program has and shows its transitions. -/
def checkProgram (files : FileTree) (path : Text) : Result :=
  match Program.loadFile files .standard path with
  | .error e => ⟨.error (.program e), [], [], files⟩
  | .ok m =>
    .exit files 0 ("[INFO] Loaded ".toText ++ Text.decimal m.numStates ++ " states, ".toText ++
      Text.decimal m.numTapes ++ " tapes.\n".toText ++ m.describe ++ [.char '\n'])

/-- The inspector: shows the size of a program and its transition table. -/
def inspectProgram (console : Console) (files : FileTree) (path : Text) : Result :=
  match Program.loadFile files .standard path with
  | .error e => ⟨.error (.program e), [], [], files⟩
  | .ok m =>
    .exit files 0 (console.printMarkup ("[bold]Program ".toText ++ path ++ "[/bold]".toText) ++
      console.printMarkup ("  States: ".toText ++ Text.decimal m.numStates) ++
      console.printMarkup
        ("  Work tapes: ".toText ++ Text.decimal m.numTapes ++ " (+ output tape)".toText) ++
      console.printMarkup ("  Start: ".toText ++ Text.decimal m.start) ++
      console.printTable (m.table Machine.tableTitle))

/-! ### All programs -/

/-- What a program does for given arguments, up to an interactive session. -/
def start (console : Console) (tool : Tool) (files : FileTree) (arguments : List Text)
    (now : Clock) (fuel : Nat) : Opening :=
  match Options.parse tool.spec arguments with
  | .error fault =>
    .done ⟨.ok 2, [],
      tool.spec.usage ++ tool.spec.program ++ ": error: ".toText ++ fault.message ++ [.char '\n'],
      files⟩
  | .ok .help => .done (.exit files 0 tool.spec.help)
  | .ok (.proceed found) =>
    match tool with
    | .simulator => simulate console files found now fuel
    | .checker => .done (checkProgram files (found.positional.getD []))
    | .inspector =>
      match found.value? "--program".toText with
      | some path => .done (inspectProgram console files path)
      | none => .done ⟨.error .noPath, [], [], files⟩

/-- What a program prints and leaves for given arguments and input. -/
def run (console : Console) (tool : Tool) (files : FileTree) (arguments : List Text) (now : Clock)
    (fuel : Nat) (input : Text) : Result :=
  match start console tool files arguments now fuel with
  | .done result => result
  | .interactive s files out => interact console s files now fuel out (inputLines input)

/-! ### Paths in use -/

/-- The paths that arguments may name: each of them, and what stands in it behind an equals sign. -/
def pathsOf (arguments : List Text) : List Text :=
  defaultSettingsPath :: arguments.flatMap fun argument =>
    argument :: ((Options.cutAtEquals argument).2).toList

/-- The paths that the settings of the simulator name: the directory of the log files and the file
of the moment's date. -/
def logPaths (console : Console) (files : FileTree) (arguments : List Text) (now : Clock) :
    List Text :=
  match Options.parse Tool.simulator.spec arguments with
  | .ok (.proceed found) =>
    match (settingsPath? found).map fun path => (loadSettings console files path).1 with
    | some (.ok settings) =>
      let directory := settings.text .outputDirectory
      [directory, RunLog.path directory (settings.text .logFileStem) now.date]
    | _ => []
  | _ => []

end CommandLine

end MultiTape
