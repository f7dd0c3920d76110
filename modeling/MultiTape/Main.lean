import MultiTape.CommandLine.Basic
import MultiTape.Terminal.Basic
import Std.Time.DateTime

/-!
# The simulator as a program

The outer layer of the simulator: it reads the files that a command may use, lets the library
decide, prints on the terminal, and writes the files that have changed. An interactive session goes
on line by line.
-/

namespace MultiTape

namespace Main

/-- The present moment. -/
def readClock : IO Clock := do
  let now := Std.Time.PlainDateTime.ofWallTime
    ((← Std.Time.Timestamp.now).toWallTime Std.Time.TimeZone.Offset.zero)
  return ⟨now.year.toNat, now.month.val.toNat, now.day.val.toNat, now.hour.val.toNat,
    now.minute.val.toNat, now.second.val.toNat, now.nanosecond.val.toNat / 1000⟩

/-- What stands at a location on the disk. -/
def look (l : Location) : IO (Option Node) := do
  try
    let bytes ← IO.FS.readBinFile (Text.string l.path)
    return some (.file bytes.toList)
  catch
    | .noFileOrDirectory .. => return none
    | _ => return some .directory

/-- Adds what stands on the disk along a path, up to the first file. -/
def see (files : FileTree) (path : Text) : IO FileTree := do
  let mut files := files
  let mut l := Location.base path
  if !path.contains (.ofNat 0) then
    for part in Path.parts path do
      l := l.enter part
      if (files.find? l).isNone then
        if let some node ← look l then files := files.put l node
      if let some (.file _) := files.find? l then break
  return files

/-- Adds what stands on the disk along several paths. -/
def seeAll (files : FileTree) (paths : List Text) : IO FileTree := paths.foldlM see files

/-- Writes to the disk what has changed from one tree to the other. -/
def save (before after : FileTree) : IO Unit := do
  for (l, node) in after.entries do
    if before.find? l != some node then
      match node with
      | .file bytes => IO.FS.writeBinFile (Text.string l.path) ⟨bytes.toArray⟩
      | .directory => IO.FS.createDirAll (Text.string l.path)

/-- Prints at once. -/
def display (t : Text) : IO Unit := do
  IO.print (Text.string t)
  (← IO.getStdout).flush

/-- Reports a breakdown. -/
def fail (message : Text) : IO UInt32 := do
  IO.eprintln (Text.string message)
  return 1

/-- The number of steps after which a run is given up; none gets that far. -/
def fuel : Nat := 1000000000000000

/-- The interactive session: prompts, reads and performs until a command or the end of the input
ends it. -/
partial def converse (s : Session) : IO UInt32 := do
  display (CommandLine.prompt Terminal.console s)
  let line ← (← IO.getStdin).getLine
  if line.isEmpty then return 0
  let now ← readClock
  let line := CommandLine.inputLines line.toText |>.headD []
  let logs := s.log.toList.map fun log => (log.turnTo now).file
  let files ← seeAll ⟨[]⟩ (logs ++ Text.words line)
  let reply := s.execute Terminal.console files now fuel line
  save files reply.files
  display reply.out
  match reply.outcome with
  | .ok true => converse reply.session
  | .ok false => return 0
  | .error e => fail e.message

/-- The simulator with some arguments. -/
def simulator (arguments : List Text) : IO UInt32 := do
  let now ← readClock
  let files ← seeAll ⟨[]⟩ (CommandLine.pathsOf arguments)
  let files ← seeAll files (CommandLine.logPaths Terminal.console files arguments now)
  match CommandLine.start Terminal.console .simulator files arguments now fuel with
  | .done result =>
    save files result.files
    display result.out
    IO.eprint (Text.string result.err)
    match result.outcome with
    | .ok code => return code.toUInt32
    | .error e => fail e.message
  | .interactive s after out =>
    save files after
    display out
    converse s

end Main

end MultiTape

def main (arguments : List String) : IO UInt32 :=
  MultiTape.Main.simulator (arguments.map String.toText)
