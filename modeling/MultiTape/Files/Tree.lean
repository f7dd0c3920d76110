import MultiTape.Files.Name
import MultiTape.Files.Path
import MultiTape.Text.Quoted

/-!
# File trees

Files and directories, each under its location: the names that lead to it from the root, or from a
directory some levels above the working directory. Where the working directory lies is not known, so
that no name leads back into it from above. The directories that locations start from are there; of
all else only what has been put into the tree is.

## Main definitions

* `Location`: the locations; `Location.enter` goes on by one part of a path
* `FileTree`: the trees
* `FileTree.status`: what a path leads to, or why it leads nowhere
* `FileTree.read`, `FileTree.append`, `FileTree.makeDirectories`: the operations
* `FileTree.Error`: why an operation failed
-/

namespace MultiTape

/-- A directory from which names lead on. -/
inductive Anchor where
  /-- The root. -/
  | root
  /-- The directory so many levels above the working directory; at level zero, that itself. -/
  | above (levels : Nat)
  deriving DecidableEq, Repr

/-- Where something stands: under some names from a directory on. -/
structure Location where
  /-- The directory from which the names lead on. -/
  anchor : Anchor
  /-- The names. -/
  names : List FileName
  deriving DecidableEq, Repr

namespace Location

/-- The directory that holds a location; the root holds itself. -/
def parent (l : Location) : Location :=
  if l.names.isEmpty then
    match l.anchor with
    | .root => l
    | .above levels => ⟨.above (levels + 1), []⟩
  else { l with names := l.names.dropLast }

/-- The location that one more part of a path leads to. -/
def enter (l : Location) (part : Text) : Location :=
  if Path.isIdle part then l
  else if part = [.char '.', .char '.'] then l.parent
  else { l with names := l.names ++ [FileName.ofText part] }

/-- The directory in which a path starts. -/
def base (path : Text) : Location :=
  ⟨if path.head? == some (.char '/') then .root else .above 0, []⟩

/-- A path that leads to a location. -/
def path (l : Location) : Text :=
  match l.anchor with
  | .root => '/' :: List.intercalate [.char '/'] (l.names.map FileName.text)
  | .above levels =>
    List.intercalate [.char '/'] (List.replicate levels "..".toText ++ l.names.map FileName.text)

end Location

/-- A file or a directory. -/
inductive Node where
  /-- A file with its bytes. -/
  | file (bytes : List UInt8)
  /-- A directory. -/
  | directory
  deriving DecidableEq, Repr

/-- Files and directories under their locations. -/
structure FileTree where
  /-- Each file and directory with its location. -/
  entries : List (Location × Node)
  deriving Repr

namespace FileTree

/-- Why a path cannot be used. -/
inductive Reason where
  /-- Nothing is there. -/
  | notFound
  /-- Something is there already. -/
  | exists
  /-- A file stands where a directory is needed. -/
  | notDirectory
  /-- A directory stands where a file is needed. -/
  | isDirectory
  /-- A name or the whole path is too long. -/
  | nameTooLong
  /-- The path holds a character of code zero. -/
  | nullCharacter
  /-- The path holds a character that names nothing. -/
  | unencodable
  deriving DecidableEq, Repr

/-- Whether the path is at fault, whatever the files are. -/
def Reason.isMalformed : Reason → Bool
  | .nullCharacter | .unencodable => true
  | _ => false

/-- The number of a reason and its description. -/
def Reason.description : Reason → Nat × Text
  | .notFound => (2, "No such file or directory".toText)
  | .exists => (17, "File exists".toText)
  | .notDirectory => (20, "Not a directory".toText)
  | .isDirectory => (21, "Is a directory".toText)
  | .nameTooLong => (36, "File name too long".toText)
  | .nullCharacter => (0, "embedded null byte".toText)
  | .unencodable => (0, "surrogates not allowed".toText)

/-- A path that could not be used, and why. -/
structure Error where
  /-- Why it could not be used. -/
  reason : Reason
  /-- The path. -/
  path : Text
  deriving DecidableEq, Repr

/-- The wording of an error. -/
def Error.message (e : Error) : Text :=
  let (number, description) := e.reason.description
  match e.reason with
  | .nullCharacter => description
  | .unencodable =>
    let (start, stop) := (FileName.fault? e.path).getD (0, 1)
    FileName.faultMessage e.path start stop
  | _ =>
    "[Errno ".toText ++ Text.decimal number ++ "] ".toText ++ description ++ ": ".toText ++
      Text.quoted e.path

/-! ### Looking up -/

/-- What stands at a location. -/
def find? (tree : FileTree) (l : Location) : Option Node :=
  if l.names.isEmpty then some .directory else (tree.entries.find? (·.1 == l)).map Prod.snd

/-- The greatest number of bytes in a name. -/
def maxNameBytes : Nat := 255

/-- The number of bytes that no path reaches. -/
def maxPathBytes : Nat := 4096

/-- Follows the parts of a path from a location on. All locations passed have to be directories. -/
def follow (tree : FileTree) (l : Location) : List Text → Except Reason Location
  | [] => .ok l
  | part :: rest =>
    match tree.find? l with
    | none => .error .notFound
    | some (.file _) => .error .notDirectory
    | some .directory =>
      if maxNameBytes < (FileName.ofText part).length then .error .nameTooLong
      else tree.follow (l.enter part) rest

/-- The location that a path leads to; nothing need be there, but all directories on the way must.
-/
def locate (tree : FileTree) (path : Text) : Except Reason Location :=
  if path.isEmpty then .error .notFound
  else if (FileName.fault? path).isSome then .error .unencodable
  else if path.contains (.ofNat 0) then .error .nullCharacter
  else if maxPathBytes ≤ (FileName.ofText path).length then .error .nameTooLong
  else tree.follow (Location.base path) (Path.parts path)

/-- What a path leads to. -/
def status (tree : FileTree) (path : Text) : Except Reason Node :=
  match tree.locate path with
  | .error e => .error e
  | .ok l =>
    match tree.find? l with
    | some node => .ok node
    | none => .error .notFound

/-- Whether a path leads to something. -/
def pathExists (tree : FileTree) (path : Text) : Bool :=
  match tree.status path with
  | .ok _ => true
  | .error _ => false

/-- Whether a path leads to a directory. -/
def isDirectory (tree : FileTree) (path : Text) : Bool :=
  match tree.status path with
  | .ok .directory => true
  | _ => false

/-! ### Files -/

/-- The bytes of a file. -/
def read (tree : FileTree) (path : Text) : Except Error (List UInt8) :=
  match tree.status path with
  | .ok (.file bytes) => .ok bytes
  | .ok .directory => .error ⟨.isDirectory, path⟩
  | .error e => .error ⟨e, path⟩

/-- Puts a node among entries: at its old place if the location is there, else at the end. -/
def putEntry (l : Location) (node : Node) : List (Location × Node) → List (Location × Node)
  | [] => [(l, node)]
  | entry :: rest =>
    if entry.1 = l then (l, node) :: rest else entry :: putEntry l node rest

/-- Puts a node at a location, in the place of the one that stood there. -/
def put (tree : FileTree) (l : Location) (node : Node) : FileTree :=
  ⟨putEntry l node tree.entries⟩

theorem find?_putEntry (l l' : Location) (node : Node) (entries : List (Location × Node)) :
    ((putEntry l node entries).find? (·.1 == l')).map Prod.snd =
      if l = l' then some node else (entries.find? (·.1 == l')).map Prod.snd := by
  induction entries with
  | nil => by_cases h : l = l' <;> simp [putEntry, h]
  | cons entry rest ih =>
    by_cases hl : entry.1 = l
    · by_cases h : l = l'
      · simp [putEntry, hl, h]
      · have : ¬ entry.1 = l' := fun he => h (hl ▸ he)
        simp [putEntry, hl, h]
    · by_cases h : entry.1 = l'
      · have hne : ¬ l = l' := fun he => hl (h.trans he.symm)
        have hne' : ¬ l' = l := fun he => hne he.symm
        simp [putEntry, h, hne, hne']
      · simpa [putEntry, hl, h] using ih

/-- A node that was put at a location stands there, and elsewhere everything stands as before. -/
theorem find?_put (tree : FileTree) (l l' : Location) (node : Node) (h : l'.names ≠ []) :
    (tree.put l node).find? l' = if l = l' then some node else tree.find? l' := by
  have h' : l'.names.isEmpty = false := by simpa using h
  simp only [find?, put, h', Bool.false_eq_true, if_false]
  exact find?_putEntry l l' node tree.entries

/-- Adds text to the end of a file, which is made if it is not there. -/
def append (tree : FileTree) (path : Text) (t : Text) : Except Error FileTree :=
  match tree.locate path with
  | .error e => .error ⟨e, path⟩
  | .ok l =>
    match tree.find? l with
    | some .directory => .error ⟨.isDirectory, path⟩
    | some (.file bytes) => .ok (tree.put l (.file (bytes ++ Utf8.encode t)))
    | none => .ok (tree.put l (.file (Utf8.encode t)))

/-! ### Directories -/

/-- Makes a directory whose parent is there. Slashes at the end of the path are ignored. -/
def makeDirectory (tree : FileTree) (path : Text) : Except Error FileTree :=
  match tree.locate (Path.dropTrailingSlashes path) with
  | .error e => .error ⟨e, path⟩
  | .ok l =>
    match tree.find? l with
    | none => .ok (tree.put l .directory)
    | some _ => .error ⟨.exists, path⟩

/-- Makes a directory unless it is there. -/
def ensureDirectory (tree : FileTree) (path : Text) : Except Error Unit × FileTree :=
  match tree.makeDirectory path with
  | .ok tree => (.ok (), tree)
  | .error e =>
    if !e.reason.isMalformed ∧ tree.isDirectory path then (.ok (), tree)
    else (.error e, tree)

/-- Makes a directory and those that lead there, unless they are there. The fuel bounds the number
of directories on the way. Directories made before a failure stay. -/
def makeDirectoriesFrom : Nat → FileTree → Text → Except Error Unit × FileTree
  | 0, tree, path => (.error ⟨.notFound, path⟩, tree)
  | fuel + 1, tree, path =>
    let (head, last) := Path.split path
    let (head, last) := if last.isEmpty then Path.split head else (head, last)
    if !head.isEmpty && !last.isEmpty && !tree.pathExists head then
      match makeDirectoriesFrom fuel tree head with
      | (.error ⟨.exists, _⟩, tree) | (.ok (), tree) =>
        if last = [.char '.'] then (.ok (), tree) else tree.ensureDirectory path
      | (.error e, tree) => (.error e, tree)
    else tree.ensureDirectory path

/-- Makes a directory and those that lead there, unless they are there. -/
def makeDirectories (tree : FileTree) (path : Text) : Except Error Unit × FileTree :=
  makeDirectoriesFrom (path.length + 1) tree path

end FileTree

end MultiTape
