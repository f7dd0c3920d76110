import MultiTape.Clock
import MultiTape.Files.Tree
import MultiTape.Json.Writer

/-!
# Run log

A record of the queries answered, one JSON object a line, in a file for each date.

## Main definitions

* `RunLog`: a log, which knows a date and the file it writes
* `RunLog.record`: records a query under the date of its moment
-/

namespace MultiTape

/-- A log of queries. -/
structure RunLog where
  /-- The directory of the log files. -/
  directory : Text
  /-- What the names of the log files start with. -/
  stem : Text
  /-- The date the log was turned to last. -/
  today : Text
  /-- The path of the file that is written. -/
  file : Text
  deriving DecidableEq, Repr

/-- What is recorded of a query. -/
structure RunEntry where
  /-- What was asked for. -/
  mode : Text
  /-- The word it was asked about. -/
  word : Text
  /-- The answer. -/
  result : Json
  /-- The path of the program, if one is known. -/
  program : Option Text

namespace RunEntry

/-- An entry as it is written at a moment. -/
def toJson (e : RunEntry) (now : Clock) : Json :=
  .obj [("timestamp".toText, .str now.timestamp), ("mode".toText, .str e.mode),
    ("word".toText, .str e.word), ("result".toText, e.result),
    ("program".toText, match e.program with
      | some path => .str path
      | none => .null)]

end RunEntry

namespace RunLog

/-- The path of the log file of a date. -/
def path (directory stem date : Text) : Text :=
  Path.join directory (stem ++ date ++ ".jsonl".toText)

/-- Starts a log at a moment, making its directory. -/
def start (files : FileTree) (directory stem : Text) (now : Clock) :
    Except FileTree.Error RunLog × FileTree :=
  match files.makeDirectories directory with
  | (.ok (), files) => (.ok ⟨directory, stem, now.date, path directory stem now.date⟩, files)
  | (.error e, files) => (.error e, files)

/-- Adds a value as a line to the file. -/
def append (log : RunLog) (files : FileTree) (v : Json) : Except FileTree.Error FileTree :=
  files.append log.file (v.write ++ [.char '\n'])

/-- Turns to the file of a date: the given one, or that of the moment if none or an empty one is
given. -/
def rotate (log : RunLog) (date : Option Text) (now : Clock) : RunLog :=
  let date := match date with
    | some (c :: rest) => c :: rest
    | _ => now.date
  { log with today := date, file := path log.directory log.stem date }

/-- The log turned to the file of a moment's date. -/
def turnTo (log : RunLog) (now : Clock) : RunLog :=
  if now.date = log.today then log else log.rotate (some now.date) now

/-- Records a query in the file of the moment's date. -/
def record (log : RunLog) (files : FileTree) (now : Clock) (e : RunEntry) :
    RunLog × Except FileTree.Error FileTree :=
  let log := log.turnTo now
  (log, log.append files (e.toJson now))

end RunLog

end MultiTape
