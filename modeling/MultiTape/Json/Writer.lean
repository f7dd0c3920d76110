import MultiTape.Json.Basic

/-!
# Writing JSON

A value on one line of ASCII text: a space after each comma and colon, and every character of a
string that is not printable ASCII written as an escape, or a pair of escapes above U+FFFF.
-/

namespace MultiTape

namespace Json

/-- An escape of four hexadecimal digits. -/
def unitEscape (n : Nat) : Text := '\\' :: 'u' :: Text.hexadecimal 4 n

/-- One character as it is written in a string. -/
def writeChar (c : CodePoint) : Text :=
  let n := c.toNat
  if c == '"' || c == '\\' then ['\\', c]
  else if c == '\n' then ['\\', 'n']
  else if c == '\r' then ['\\', 'r']
  else if c == '\t' then ['\\', 't']
  else if n == 8 then ['\\', 'b']
  else if n == 12 then ['\\', 'f']
  else if 0x20 ≤ n ∧ n < 0x7f then [c]
  else if n < 0x10000 then unitEscape n
  else
    unitEscape (0xd800 + (n - 0x10000) / 0x400) ++ unitEscape (0xdc00 + (n - 0x10000) % 0x400)

/-- A string between its quotes. -/
def writeString (t : Text) : Text := .char '"' :: t.flatMap writeChar ++ [.char '"']

mutual

/-- The text of a value. -/
def write : Json → Text
  | .null => "null".toText
  | .bool true => "true".toText
  | .bool false => "false".toText
  | .int n => Text.decimal n
  | .float x => Shortest.render "Infinity".toText "NaN".toText x
  | .str t => writeString t
  | .arr items => .char '[' :: List.intercalate ", ".toText (writeItems items) ++ [.char ']']
  | .obj members =>
    .ofNat 0x7b :: List.intercalate ", ".toText (writeMembers members) ++ [.ofNat 0x7d]

/-- The texts of the items of a list. -/
def writeItems : List Json → List Text
  | [] => []
  | item :: rest => write item :: writeItems rest

/-- The texts of the members of an object. -/
def writeMembers : List (Text × Json) → List Text
  | [] => []
  | (key, value) :: rest => (writeString key ++ ": ".toText ++ write value) :: writeMembers rest

end

end Json

end MultiTape
