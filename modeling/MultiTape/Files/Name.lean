import MultiTape.Text.Utf8

/-!
# Names of files

The name of a file consists of bytes, those of its text. Bytes that encode no text have names too:
each of them is named by half of a surrogate pair, one of U+DC80 to U+DCFF. The other halves name
nothing, and a text that holds one of them is no path.

## Main definitions

* `FileName`: the names
* `FileName.ofText`, `FileName.text`: the name of a text, and back
* `FileName.fault?`: the first halves in a text that name nothing
-/

namespace MultiTape

/-- The name of a file, by its bytes. -/
abbrev FileName := List UInt8

namespace FileName

/-- The byte that half of a surrogate pair names. -/
def byte? : CodePoint → Option UInt8
  | .char _ => none
  | .surrogate i => if 0x480 ≤ i.val ∧ i.val < 0x500 then some (UInt8.ofNat (i - 0x400)) else none

/-- The bytes that a character stands for in a name. -/
def bytes (c : CodePoint) : List UInt8 :=
  match byte? c with
  | some b => [b]
  | none => Utf8.encodeChar c

/-- The name of a text. -/
def ofText (t : Text) : FileName := t.flatMap bytes

/-- Whether a character is half of a surrogate pair. -/
def isHalf : CodePoint → Bool
  | .char _ => false
  | .surrogate _ => true

/-- Whether a character names nothing. -/
def isNameless (c : CodePoint) : Bool := isHalf c && (byte? c).isNone

/-- The first character of a text that names nothing, by its position, and the position after the
halves that follow it. -/
def fault? (t : Text) : Option (Nat × Nat) :=
  match t.dropWhile fun c => !isNameless c with
  | [] => none
  | c :: rest =>
    let start := t.length - (c :: rest).length
    some (start, start + ((c :: rest).takeWhile isHalf).length)

/-- The wording for a text that names no file. -/
def faultMessage (t : Text) (start stop : Nat) : Text :=
  let place :=
    if stop = start + 1 then
      "character '\\u".toText ++ Text.hexadecimal 4 (t.getD start default).toNat ++
        "' in position ".toText ++ Text.decimal start
    else
      "characters in position ".toText ++ Text.decimal start ++ "-".toText ++
        Text.decimal (stop - 1 : Nat)
  "'utf-8' codec can't encode ".toText ++ place ++ ": surrogates not allowed".toText

/-- The text of a name, at most `fuel` runs of bytes being no text. -/
def textFrom : Nat → FileName → Text
  | 0, _ => []
  | fuel + 1, name =>
    match Utf8.decode name with
    | .ok t => t
    | .error fault =>
      let strays := (name.take fault.stop).drop fault.start
      textFrom fuel (name.take fault.start) ++
        strays.map (fun b => CodePoint.ofNat (0xdc00 + b.toNat)) ++
          textFrom fuel (name.drop fault.stop)

/-- The text of a name. -/
def text (name : FileName) : Text := textFrom (name.length + 1) name

end FileName

end MultiTape
