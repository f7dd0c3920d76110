import MultiTape.Files.Tree
import MultiTape.Program.Load

/-!
# Program files

A program file is UTF-8 text in any convention of line breaks. Its path is shown without the parts
that stay where they are.
-/

namespace MultiTape

namespace Program

/-- Why no machine could be loaded from a file. -/
inductive LoadError where
  /-- There is no such file. -/
  | missing (path : Text)
  /-- The file could not be read. -/
  | file (e : FileTree.Error)
  /-- The file is no text. -/
  | undecodable (e : Utf8.Fault)
  /-- The text is no program. -/
  | format (e : FormatError)
  deriving DecidableEq, Repr

/-- The wording of a loading error. -/
def LoadError.message : LoadError → Text
  | .missing path => "Program file not found at: ".toText ++ path
  | .file e => e.message
  | .undecodable e => e.message
  | .format e => e.message

/-- The machine of some bytes. -/
def ofBytes (alphabet : Alphabet) (bytes : List UInt8) : Except LoadError Machine := do
  let t ← (Utf8.decode bytes).mapError .undecodable
  (load alphabet (Text.unifyNewlines t)).mapError .format

/-- The machine of a program file. A path that is too long is an error of its own; any other path
that leads nowhere is missing. -/
def loadFile (files : FileTree) (alphabet : Alphabet) (path : Text) : Except LoadError Machine :=
  let path := Path.normalize path
  match files.status path with
  | .error .nameTooLong => .error (.file ⟨.nameTooLong, path⟩)
  | .error _ => .error (.missing path)
  | .ok _ => do
    let bytes ← (files.read path).mapError .file
    ofBytes alphabet bytes

end Program

end MultiTape
