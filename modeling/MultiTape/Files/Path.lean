import MultiTape.Text.Basic

/-!
# Paths

A path is text whose parts are separated by slashes. The part `.` and an empty part stay where they
are, and `..` goes up.

## Main definitions

* `Path.parts`: the parts of a path
* `Path.normalize`: a path without the parts that stay where they are
* `Path.split`, `Path.join`: cutting off the last part and putting one on
-/

namespace MultiTape

namespace Path

/-- The parts of a path; a slash at either end sets off an empty part. -/
def parts : Text → List Text
  | [] => [[]]
  | c :: rest =>
    if c == '/' then [] :: parts rest
    else match parts rest with
      | [] => [[c]]
      | part :: more => (c :: part) :: more

/-- Whether a part stays where it is. -/
def isIdle (part : Text) : Bool := part.isEmpty || part == [.char '.']

/-- The slashes that a path keeps at its front: one, or two if it starts with exactly two. -/
def root (p : Text) : Text :=
  match (p.takeWhile (· == .char '/')).length with
  | 0 => []
  | 2 => ['/', '/']
  | _ => ['/']

/-- A path without idle parts; the path that stays where it is remains as a single dot. -/
def normalize (p : Text) : Text :=
  let joined := root p ++ List.intercalate [.char '/'] ((parts p).filter fun part => !isIdle part)
  if joined.isEmpty then ['.'] else joined

/-- A path without the slashes at its end, unless it has nothing else. -/
def dropTrailingSlashes (p : Text) : Text :=
  if p.all (· == .char '/') then p else (p.reverse.dropWhile (· == .char '/')).reverse

/-- A path cut before its last part: what leads there, without slashes at its end, and the part. -/
def split (p : Text) : Text × Text :=
  let last := (p.reverse.takeWhile (· != .char '/')).reverse
  (dropTrailingSlashes (p.take (p.length - last.length)), last)

/-- A name put behind a directory; a name that starts with a slash stands alone. -/
def join (directory name : Text) : Text :=
  if name.head? == some (.char '/') then name
  else if directory.isEmpty || directory.getLast? == some (.char '/') then directory ++ name
  else directory ++ .char '/' :: name

/-- The wording for a value of some kind that stands where a path has to. -/
def notPathMessage (kind : Text) : Text :=
  "expected str, bytes or os.PathLike object, not ".toText ++ kind

end Path

end MultiTape
