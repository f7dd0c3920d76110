import MultiTape.Text.DecimalDigit
import MultiTape.Text.Quoted

/-!
# Command-line options

Arguments are options, which start with a dash, and positional ones. A value follows its option,
or stands in the same argument behind an equals sign. A long option may be cut short as long as no
other starts the same way, and options of one letter may share their dash. After the argument `--`
everything is positional; behind an equals sign `--` leaves the option without a value.

## Main definitions

* `Options.Spec`: the options and the positional argument of a program
* `Options.parse`: what the arguments ask for
* `Options.Spec.usage`, `Options.Spec.help`: the texts that explain them
-/

namespace MultiTape

namespace Options

/-- An option. -/
structure Flag where
  /-- Its names, each with its dashes. -/
  names : List Text
  /-- What stands for its value in the help, if it takes one. -/
  value : Option Text
  /-- Whether it has to be given. -/
  required : Bool
  /-- What it does. -/
  help : Text
  deriving DecidableEq, Repr

/-- A positional argument. -/
structure Positional where
  /-- Its name. -/
  name : Text
  /-- What it is. -/
  help : Text
  deriving DecidableEq, Repr

/-- The arguments that a program takes besides the request for help. -/
structure Spec where
  /-- The name of the program. -/
  program : Text
  /-- What the program is. -/
  description : Text
  /-- The positional argument, if there is one; it has to be given. -/
  positional : Option Positional
  /-- The options. -/
  flags : List Flag
  deriving DecidableEq, Repr

/-- The request for help. -/
def helpFlag : Flag :=
  ⟨["-h".toText, "--help".toText], none, false, "show this help message and exit".toText⟩

/-- The request for help and the options. -/
def Spec.allFlags (spec : Spec) : List Flag := helpFlag :: spec.flags

/-! ### Explaining -/

/-- An option as usage shows it. -/
def Flag.usage (flag : Flag) : Text :=
  let shown := flag.names.headD [] ++ match flag.value with
    | some value => ' ' :: value
    | none => []
  if flag.required then shown else .char '[' :: shown ++ [.char ']']

/-- The usage line. -/
def Spec.usage (spec : Spec) : Text :=
  let positional := match spec.positional with
    | some p => [p.name]
    | none => []
  "usage: ".toText ++
    List.intercalate [.char ' '] (spec.program :: spec.allFlags.map Flag.usage ++ positional) ++
    [.char '\n']

/-- An option with all its names, as the help shows it. -/
def Flag.invocation (flag : Flag) : Text :=
  List.intercalate ", ".toText (flag.names.map fun name => name ++ match flag.value with
    | some value => ' ' :: value
    | none => [])

/-- A part of the help: its heading, and what it lists with the explanations in a column. -/
def explained (heading : Text) (column : Nat) (items : List (Text × Text)) : Text :=
  if items.isEmpty then []
  else .char '\n' :: heading ++ ":\n".toText ++ items.flatMap fun (name, help) =>
    "  ".toText ++ name ++ List.replicate (column + 2 - name.length) (.char ' ') ++ help ++
      [.char '\n']

/-- The help. -/
def Spec.help (spec : Spec) : Text :=
  let positional := match spec.positional with
    | some p => [(p.name, p.help)]
    | none => []
  let flags := spec.allFlags.map fun flag => (flag.invocation, flag.help)
  let column := ((positional ++ flags).map fun item => item.1.length).foldl max 0
  spec.usage ++ .char '\n' :: spec.description ++ [.char '\n'] ++
    explained "positional arguments".toText column positional ++
    explained "options".toText column flags

/-! ### Faults -/

/-- What is wrong with the arguments. -/
inductive Fault where
  /-- An argument is the start of several options. -/
  | ambiguous (argument : Text) (names : List Text)
  /-- The value of an option is missing. -/
  | missingValue (flag : Flag)
  /-- An option that takes no value has one. -/
  | unwantedValue (flag : Flag) (value : Text)
  /-- Arguments are missing. -/
  | required (names : List Text)
  /-- There are arguments that the program does not take. -/
  | unrecognized (arguments : List Text)
  deriving DecidableEq, Repr

/-- The names of an option in a message. -/
def Flag.allNames (flag : Flag) : Text := List.intercalate [.char '/'] flag.names

/-- The wording of a fault. -/
def Fault.message : Fault → Text
  | .ambiguous argument names =>
    "ambiguous option: ".toText ++ argument ++ " could match ".toText ++
      List.intercalate ", ".toText names
  | .missingValue flag => "argument ".toText ++ flag.allNames ++ ": expected one argument".toText
  | .unwantedValue flag value =>
    "argument ".toText ++ flag.allNames ++ ": ignored explicit argument ".toText ++
      Text.quoted value
  | .required names =>
    "the following arguments are required: ".toText ++ List.intercalate ", ".toText names
  | .unrecognized arguments =>
    "unrecognized arguments: ".toText ++ List.intercalate [.char ' '] arguments

/-! ### Kinds of arguments -/

/-- What an argument is. -/
inductive Argument where
  /-- The argument after which everything is positional. -/
  | dashes
  /-- A positional argument, or the value of an option. -/
  | plain
  /-- An option under one of its names, and what stands in the same argument behind the name and an
  equals sign, or right behind a name of one letter. -/
  | flag (flag : Flag) (name : Text) (attached : Option Text)
  /-- What looks like an option and is none. -/
  | unknown
  deriving DecidableEq, Repr

/-- The options with each of their names, in order. -/
def Spec.named (spec : Spec) : List (Text × Flag) :=
  spec.allFlags.flatMap fun flag => flag.names.map fun name => (name, flag)

/-- The option of a name. -/
def Spec.lookup? (spec : Spec) (name : Text) : Option Flag :=
  (spec.named.find? (·.1 == name)).map Prod.snd

/-- A text cut at its first equals sign. -/
def cutAtEquals (t : Text) : Text × Option Text :=
  match t.dropWhile (· != .char '=') with
  | [] => (t, none)
  | _ :: value => (t.takeWhile (· != .char '='), some value)

/-- Whether a text is a negative number: a dash, and digits with at most one point, which is
followed by a digit. A line break at the very end does not count. -/
def isNegativeNumber : Text → Bool
  | '-' :: rest =>
    let rest := if rest.getLast? == some (.char '\n') then rest.dropLast else rest
    let isDigit (c : CodePoint) : Bool := (Text.digit? c).isSome
    let digits := rest.takeWhile isDigit
    match rest.dropWhile isDigit with
    | [] => !digits.isEmpty
    | '.' :: fraction => !fraction.isEmpty && fraction.all isDigit
    | _ => false
  | _ => false

/-- The options that an argument may stand for, each with its full name: those that a long argument
is the start of, or the one whose name is the first two characters of a short argument. -/
def Spec.candidates (spec : Spec) (argument name : Text) (attached : Option Text) :
    List (Text × Argument) :=
  if argument.take 2 == [.char '-', .char '-'] then
    (spec.named.filter fun (other, _) => name.isPrefixOf other).map fun (other, flag) =>
      (other, .flag flag other attached)
  else
    (spec.named.filter fun (other, _) => other == argument.take 2).map fun (other, flag) =>
      (other, .flag flag other (some (argument.drop 2)))

/-- What an argument with a dash is that names no option as it stands. -/
def Spec.classifyCut (spec : Spec) (argument : Text) : Except Fault Argument :=
  let (name, attached) := cutAtEquals argument
  match attached, spec.lookup? name with
  | some attached, some flag => .ok (.flag flag name (some attached))
  | _, _ =>
    match spec.candidates argument name attached with
    | [(_, candidate)] => .ok candidate
    | [] =>
      if isNegativeNumber argument || argument.contains ' ' then .ok .plain else .ok .unknown
    | several => .error (.ambiguous argument (several.map Prod.fst))

/-- What an argument before `--` is. -/
def Spec.classify (spec : Spec) (argument : Text) : Except Fault Argument :=
  if argument.head? != some (.char '-') then .ok .plain
  else match spec.lookup? argument with
    | some flag => .ok (.flag flag argument none)
    | none => if argument.length = 1 then .ok .plain else spec.classifyCut argument

/-- What the arguments are, each with its text. -/
def Spec.classifyAll (spec : Spec) : List Text → Except Fault (List (Argument × Text))
  | [] => .ok []
  | argument :: rest =>
    if argument = [.char '-', .char '-'] then
      .ok ((.dashes, argument) :: rest.map fun t => (.plain, t))
    else do
      let kind ← spec.classify argument
      let more ← spec.classifyAll rest
      pure ((kind, argument) :: more)

/-! ### Parsing -/

/-- What has been found among the arguments so far. -/
structure Found where
  /-- The options given, each under its first name and with its value if it has one, the latest
  first. -/
  given : List (Text × Option Text)
  /-- The positional argument. -/
  positional : Option Text
  /-- The arguments that the program does not take, the latest first. -/
  extras : List Text
  deriving DecidableEq, Repr

/-- What the arguments ask for. -/
inductive Request where
  /-- To show the help. -/
  | help
  /-- To go on with what was found. -/
  | proceed (found : Found)
  deriving DecidableEq, Repr

/-- What is wrong with options of one letter that share a dash, given the last of them so far and
the text behind it: they end where a letter is no option, and what is then left is the value of the
last one, which takes none. -/
def clusterFault (spec : Spec) (flag : Flag) : Text → Option Fault
  | [] => none
  | c :: rest =>
    match spec.lookup? ['-', c] with
    | some next => clusterFault spec next rest
    | none => some (.unwantedValue flag (c :: rest))

/-- What is wrong with a text behind an option that takes no value: only behind an option of one
letter may something stand, which are then further options. -/
def attachedFault (spec : Spec) (flag : Flag) (name attached : Text) : Option Fault :=
  if attached.isEmpty || name.take 2 == [.char '-', .char '-'] then
    some (.unwantedValue flag attached)
  else clusterFault spec flag attached

/-- The value that stands behind an equals sign, where two dashes stand for none. -/
def attachedValue (t : Text) : Option Text := if t == [.char '-', .char '-'] then none else some t

/-- Parses arguments from the first one on. The request for help ends the parsing, and options of
one letter that share a dash are such requests, since no other option is named by a letter. Once no
option is left, the positional argument may have `--` before or behind it; what then remains is not
taken. -/
def parseFrom (spec : Spec) (found : Found) : List (Argument × Text) → Except Fault Request
  | [] => .ok (.proceed found)
  | (.unknown, t) :: rest => parseFrom spec { found with extras := t :: found.extras } rest
  | (.dashes, t) :: rest =>
    match rest, spec.positional, found.positional with
    | (_, p) :: more, some _, none =>
      .ok (.proceed { found with
        positional := some p, extras := (more.map Prod.snd).reverse ++ found.extras })
    | _, _, _ =>
      .ok (.proceed { found with extras := (t :: rest.map Prod.snd).reverse ++ found.extras })
  | (.plain, t) :: rest =>
    match spec.positional, found.positional with
    | some _, none =>
      let found := { found with positional := some t }
      match rest with
      | (.dashes, _) :: more =>
        .ok (.proceed { found with extras := (more.map Prod.snd).reverse ++ found.extras })
      | _ => parseFrom spec found rest
    | _, _ => parseFrom spec { found with extras := t :: found.extras } rest
  | (.flag flag name attached, _) :: rest =>
    let give (value : Option Text) : Found :=
      { found with given := (flag.names.headD [], value) :: found.given }
    match flag.value, attached with
    | some _, some attached => parseFrom spec (give (attachedValue attached)) rest
    | some _, none =>
      match rest with
      | (.plain, value) :: more => parseFrom spec (give (some value)) more
      | _ => .error (.missingValue flag)
    | none, some attached =>
      match attachedFault spec flag name attached with
      | some fault => .error fault
      | none => .ok .help
    | none, none =>
      if flag = helpFlag then .ok .help else parseFrom spec (give none) rest

/-- The required arguments that were not found. -/
def Spec.missing (spec : Spec) (found : Found) : List Text :=
  let positional := match spec.positional, found.positional with
    | some p, none => [p.name]
    | _, _ => []
  let flags := spec.flags.filter fun flag =>
    flag.required && !found.given.any fun (name, _) => name == flag.names.headD []
  positional ++ flags.map Flag.allNames

/-- What the arguments ask for, or the first fault in them. -/
def parse (spec : Spec) (arguments : List Text) : Except Fault Request := do
  let arguments ← spec.classifyAll arguments
  match ← parseFrom spec ⟨[], none, []⟩ arguments with
  | .help => pure .help
  | .proceed found =>
    if !(spec.missing found).isEmpty then .error (.required (spec.missing found))
    else if !found.extras.isEmpty then .error (.unrecognized found.extras.reverse)
    else pure (.proceed found)

/-- Whether an option was given. -/
def Found.has (found : Found) (name : Text) : Bool := found.given.any (·.1 == name)

/-- The value of an option; of several values the last counts. -/
def Found.value? (found : Found) (name : Text) : Option Text :=
  (found.given.find? (·.1 == name)).bind Prod.snd

end Options

end MultiTape
