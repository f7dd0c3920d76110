import MultiTape.Alphabet
import MultiTape.Json.Reader

/-!
# Settings

Settings are named values in order. Seven of them have defaults and a required kind, and three of
those form an alphabet; any others are kept as they are.

## Main definitions

* `Settings`, `Settings.default`: named values, and those that hold unless others are given
* `Settings.merge`: settings with the values of a JSON text laid over them
* `Settings.check`: the alphabet of settings that are complete and of the right kinds
-/

namespace MultiTape

/-- Named values in order, each name once. Names are text unless a list of pairs gave others. -/
structure Settings where
  /-- The names with their values. -/
  entries : List (Json × Json)

namespace Settings

/-! ### The known settings -/

/-- The kinds that settings may be required to have. -/
inductive Kind where
  /-- Text. -/
  | text
  /-- A truth value. -/
  | truth
  deriving DecidableEq, Repr

/-- The name of a kind. -/
def Kind.name : Kind → Text
  | .text => "str".toText
  | .truth => "bool".toText

/-- Whether a value is of a kind. -/
def Kind.admits : Kind → Json → Bool
  | .text, .str _ => true
  | .truth, .bool _ => true
  | _, _ => false

/-- The known settings. -/
inductive Key where
  /-- The first letter of the alphabet. -/
  | firstSymbol
  /-- The last letter of the alphabet. -/
  | lastSymbol
  /-- The blank of the alphabet. -/
  | blankSymbol
  /-- What the interactive session prints before it reads a line. -/
  | prompt
  /-- Whether queries are logged. -/
  | logRuns
  /-- The directory of the log files. -/
  | outputDirectory
  /-- What the names of log files start with. -/
  | logFileStem
  deriving DecidableEq, Repr

namespace Key

/-- The known settings in order. -/
def all : List Key :=
  [.firstSymbol, .lastSymbol, .blankSymbol, .prompt, .logRuns, .outputDirectory, .logFileStem]

/-- The name of a setting. -/
def name : Key → Text
  | .firstSymbol => "first_symbol".toText
  | .lastSymbol => "last_symbol".toText
  | .blankSymbol => "blank_symbol".toText
  | .prompt => "prompt".toText
  | .logRuns => "log_runs".toText
  | .outputDirectory => "output_directory".toText
  | .logFileStem => "log_file_prefix".toText

/-- The kind that a setting has to be of. -/
def kind : Key → Kind
  | .logRuns => .truth
  | _ => .text

/-- The value that holds unless another is given. -/
def defaultValue : Key → Json
  | .firstSymbol => .str ['a']
  | .lastSymbol => .str ['z']
  | .blankSymbol => .str ['~']
  | .prompt => .str "dtm> ".toText
  | .logRuns => .bool false
  | .outputDirectory => .str "logs/".toText
  | .logFileStem => .str "dtm_".toText

end Key

/-- The settings that hold unless others are given. -/
def default : Settings := ⟨Key.all.map fun key => (.str key.name, key.defaultValue)⟩

/-! ### Looking up and laying over -/

/-- A truth value or a number that may be compared with others, as an integer if it is one. -/
def asInt? : Json → Option Int
  | .bool b => some (if b then 1 else 0)
  | .int n => some n
  | _ => none

/-- Whether two values count as the same name: equal text, or equal numbers, where truth values
count as zero and one. -/
def sameName : Json → Json → Bool
  | .null, .null => true
  | .str t, .str u => t == u
  | .float x, .float y => x.sameValue y
  | .float x, v => match asInt? v with
    | some n => x.isInt n
    | none => false
  | v, .float x => match asInt? v with
    | some n => x.isInt n
    | none => false
  | v, w => match asInt? v, asInt? w with
    | some n, some m => n == m
    | _, _ => false

/-- The value under a name. -/
def find? (s : Settings) (name : Json) : Option Json :=
  (s.entries.find? fun entry => sameName entry.1 name).map Prod.snd

/-- The value of a known setting. -/
def get? (s : Settings) (key : Key) : Option Json := s.find? (.str key.name)

/-- The value of a known setting, or its default if it is missing. -/
def get (s : Settings) (key : Key) : Json := (s.get? key).getD key.defaultValue

/-- The text of a known setting; a value of another kind is shown as in listings. -/
def text (s : Settings) (key : Key) : Text := (s.get key).plain

/-- Puts a value under a name: at its old place if the name is there, else at the end. -/
def insertEntry (name value : Json) : List (Json × Json) → List (Json × Json)
  | [] => [(name, value)]
  | (n, v) :: rest =>
    if sameName n name then (n, value) :: rest else (n, v) :: insertEntry name value rest

/-- Puts a value under a name. -/
def insert (s : Settings) (name value : Json) : Settings := ⟨insertEntry name value s.entries⟩

/-- Why a value cannot be laid over settings. -/
inductive MergeError where
  /-- A value that has no parts. -/
  | noParts (kind : Text)
  /-- A part that has no parts of its own. -/
  | partWithoutParts (index : Nat)
  /-- A part that is no pair. -/
  | notPair (index length : Nat)
  /-- A pair whose first part cannot be a name. -/
  | badName (kind : Text)
  deriving DecidableEq, Repr

/-- The wording for a value that cannot be laid over settings. -/
def MergeError.message : MergeError → Text
  | .noParts kind => .char '\'' :: kind ++ "' object is not iterable".toText
  | .partWithoutParts index =>
    "cannot convert dictionary update sequence element #".toText ++ Text.decimal index ++
      " to a sequence".toText
  | .notPair index length =>
    "dictionary update sequence element #".toText ++ Text.decimal index ++ " has length ".toText ++
      Text.decimal length ++ "; 2 is required".toText
  | .badName kind => "unhashable type: '".toText ++ kind ++ [.char '\'']

/-- The parts of a value: the items of a list, the names of an object, the characters of a text. -/
def parts? : Json → Option (List Json)
  | .arr items => some items
  | .obj members => some (members.map fun (name, _) => .str name)
  | .str t => some (t.map fun c => .str [c])
  | _ => none

/-- Whether a value can be a name: lists and objects cannot. -/
def isName : Json → Bool
  | .arr _ => false
  | .obj _ => false
  | _ => true

/-- Lays pairs of a name and a value over settings, `index` pairs having been laid before. -/
def mergePairs (index : Nat) (s : Settings) : List Json → Except MergeError Settings
  | [] => .ok s
  | item :: rest =>
    match parts? item with
    | some [name, value] =>
      if isName name then mergePairs (index + 1) (s.insert name value) rest
      else .error (.badName name.kindName)
    | some parts => .error (.notPair index parts.length)
    | none => .error (.partWithoutParts index)

/-- Settings with a value laid over them: an object with its members, any other value that has parts
with its parts as pairs. -/
def merge (s : Settings) (v : Json) : Except MergeError Settings :=
  match v with
  | .obj members => .ok (members.foldl (fun s (name, value) => s.insert (.str name) value) s)
  | v =>
    match parts? v with
    | some items => mergePairs 0 s items
    | none => .error (.noParts v.kindName)

/-! ### Checking -/

/-- What is wrong with settings. -/
inductive CheckError where
  /-- A known setting is missing. -/
  | missing (key : Key)
  /-- A known setting is of the wrong kind. -/
  | wrongKind (key : Key) (found : Text)
  /-- The three symbols form no alphabet. -/
  | alphabet (e : Alphabet.Error)
  /-- A value of this kind holds no settings. -/
  | noSettings (kind : Text)
  /-- A list holds the name of a setting, but its items have no names. -/
  | listByName
  /-- A text holds the name of a setting, but its characters have no names. -/
  | textByName

/-- The wording for what is wrong with settings. -/
def CheckError.message : CheckError → Text
  | .missing key => "Missing required configuration key: ".toText ++ key.name
  | .wrongKind key found =>
    "Config key '".toText ++ key.name ++ "' expected <class '".toText ++ key.kind.name ++
      "'>, got <class '".toText ++ found ++ "'>.".toText
  | .alphabet e => e.message
  | .noSettings kind => "argument of type '".toText ++ kind ++ "' is not iterable".toText
  | .listByName => "list indices must be integers or slices, not str".toText
  | .textByName => "string indices must be integers, not 'str'".toText

/-- Checks that a known setting is there and of its kind. -/
def checkKey (s : Settings) (key : Key) : Except CheckError Unit :=
  match s.get? key with
  | none => .error (.missing key)
  | some v => if key.kind.admits v then .ok () else .error (.wrongKind key v.kindName)

/-- The alphabet of the three symbols. -/
def alphabet (s : Settings) : Except Alphabet.Error Alphabet :=
  Alphabet.ofValues (s.get .firstSymbol) (s.get .lastSymbol) (s.get .blankSymbol)

/-- Checks every known setting in order, and then the alphabet, which is given back. -/
def check (s : Settings) : Except CheckError Alphabet := do
  Key.all.forM s.checkKey
  s.alphabet.mapError .alphabet

/-- Whether `t` occurs in a text. -/
def occursIn (t : Text) : Text → Bool
  | [] => t.isEmpty
  | c :: rest => t.isPrefixOf (c :: rest) || occursIn t rest

/-- Checks a value that may be no object. A list or a text that mentions the first of the known
settings is asked for it by name, which it cannot answer. -/
def checkValue (v : Json) : Except CheckError Alphabet :=
  let first : Key := .firstSymbol
  match v with
  | .obj members => check ⟨members.map fun (name, value) => (.str name, value)⟩
  | .arr items =>
    if items.any (sameName (.str first.name)) then .error .listByName else .error (.missing first)
  | .str t => if occursIn first.name t then .error .textByName else .error (.missing first)
  | v => .error (.noSettings v.kindName)

end Settings

end MultiTape
