import MultiTape.Clock
import MultiTape.Files.Tree
import MultiTape.Settings.Basic

/-!
# Settings files

A settings file is JSON text laid over the default settings. Only settings that pass their check are
used, and only then is the directory of the log files made.
-/

namespace MultiTape

namespace Settings

/-- Why a settings file gives no settings. -/
inductive LoadError where
  /-- There is no such file. -/
  | missing (path : Text)
  /-- The file or the directory of the log files could not be used. -/
  | file (e : FileTree.Error)
  /-- The file is no text. -/
  | undecodable (e : Utf8.Fault)
  /-- The text is no JSON. -/
  | json (e : Json.ReadError)
  /-- The value cannot be laid over settings. -/
  | merge (e : MergeError)
  /-- The settings are wrong. -/
  | check (e : CheckError)

/-- The wording for a settings file that gives no settings. -/
def LoadError.message : LoadError → Text
  | .missing path => "Configuration file not found at: ".toText ++ path
  | .file e => e.message
  | .undecodable e => e.message
  | .json e => e.message
  | .merge e => e.message
  | .check e => e.message

/-- The settings of some bytes, checked. -/
def ofBytes (bytes : List UInt8) : Except LoadError Settings := do
  let t ← (Utf8.decode bytes).mapError .undecodable
  let v ← (Json.read (Text.unifyNewlines t)).mapError .json
  let s ← (default.merge v).mapError .merge
  let _ ← s.check.mapError .check
  pure s

/-- The settings of a file. If queries are to be logged, the directory of the log files is made. -/
def loadFile (files : FileTree) (path : Text) : Except LoadError Settings × FileTree :=
  if !files.pathExists path then (.error (.missing path), files)
  else match files.read path with
    | .error e => (.error (.file e), files)
    | .ok bytes =>
      match ofBytes bytes with
      | .error e => (.error e, files)
      | .ok s =>
        if (s.get .logRuns).truthy then
          match files.makeDirectories (s.text .outputDirectory) with
          | (.ok (), files) => (.ok s, files)
          | (.error e, files) => (.error (.file e), files)
        else (.ok s, files)

/-- The listing of loaded settings: when they were loaded, and each with its value. -/
def listing (s : Settings) (now : Clock) : List Text :=
  (.char '[' :: now.stamp ' ' ++ "] Loaded config:".toText) ::
    s.entries.map fun (name, value) => "  ".toText ++ name.plain ++ ": ".toText ++ value.plain

end Settings

end MultiTape
