import MultiTape.Json.Basic
import MultiTape.Numeral

/-!
# Reading JSON

One pass over the text that either gives its value or names the first fault and its position. Beyond
the standard, the numbers `NaN`, `Infinity` and `-Infinity` are read. Of members with the same name
the last value counts, at the place of the first. Lists and objects may stand in one another up to a
fixed depth.

## Main definitions

* `Json.read`: the value of a text
* `Json.ReadError`: why a text has no value
-/

namespace MultiTape

namespace Json

/-- What is wrong at a place in the text. -/
inductive Problem where
  /-- No value starts here. -/
  | expectingValue
  /-- No member name starts here. -/
  | expectingName
  /-- The colon after a member name is missing. -/
  | expectingColon
  /-- The comma after an item is missing. -/
  | expectingComma
  /-- The text goes on after its value. -/
  | extraData
  /-- The string that opens here is not closed. -/
  | unterminatedString
  /-- A control character stands in a string. -/
  | controlCharacter
  /-- A backslash opens no escape. -/
  | badEscape
  /-- Four hexadecimal digits are missing. -/
  | badUnicodeEscape
  /-- The text starts with a byte order mark. -/
  | byteOrderMark
  deriving DecidableEq, Repr

/-- The wording of a problem. -/
def Problem.wording : Problem → Text
  | .expectingValue => "Expecting value".toText
  | .expectingName => "Expecting property name enclosed in double quotes".toText
  | .expectingColon => "Expecting ':' delimiter".toText
  | .expectingComma => "Expecting ',' delimiter".toText
  | .extraData => "Extra data".toText
  | .unterminatedString => "Unterminated string starting at".toText
  | .controlCharacter => "Invalid control character at".toText
  | .badEscape => "Invalid \\escape".toText
  | .badUnicodeEscape => "Invalid \\uXXXX escape".toText
  | .byteOrderMark => "Unexpected UTF-8 BOM (decode using utf-8-sig)".toText

/-- The values that hold further values. -/
inductive Container where
  /-- A list. -/
  | array
  /-- An object. -/
  | object
  deriving DecidableEq, Repr

/-- The name of a container in messages. -/
def Container.name : Container → Text
  | .array => "array".toText
  | .object => "object".toText

/-- A fault met while reading: a problem at a position, an integer of too many digits, or containers
that stand too deep in one another. -/
inductive Fault where
  /-- A problem at a position, counted from zero. -/
  | malformed (problem : Problem) (position : Nat)
  /-- An integer of too many digits. -/
  | tooLong (digits : Nat)
  /-- A container that stands in too many others. -/
  | tooDeep (container : Container)
  deriving DecidableEq, Repr

/-- What is left to read and its position in the whole text. -/
structure Cursor where
  /-- The text from here on. -/
  rest : Text
  /-- The number of characters before it. -/
  position : Nat

/-- The characters that may stand between the parts of a value. -/
def isSpace (c : CodePoint) : Bool := c == ' ' || c == '\t' || c == '\n' || c == '\r'

/-- The place of the next character that is not a space. -/
def Cursor.skipSpace (c : Cursor) : Cursor :=
  ⟨c.rest.dropWhile isSpace, c.position + (c.rest.takeWhile isSpace).length⟩

/-- The place `n` characters further on. -/
def Cursor.skip (c : Cursor) (n : Nat) : Cursor := ⟨c.rest.drop n, c.position + n⟩

/-! ### Strings -/

/-- The value of a hexadecimal digit. -/
def hexDigit? (c : CodePoint) : Option Nat :=
  if '0' ≤ c ∧ c ≤ '9' then some (c.toNat - '0'.toNat)
  else if 'a' ≤ c ∧ c ≤ 'f' then some (c.toNat - 'a'.toNat + 10)
  else if 'A' ≤ c ∧ c ≤ 'F' then some (c.toNat - 'A'.toNat + 10)
  else none

/-- The value of four hexadecimal digits. -/
def hexValue? (a b c d : CodePoint) : Option Nat := do
  let a ← hexDigit? a
  let b ← hexDigit? b
  let c ← hexDigit? c
  let d ← hexDigit? d
  pure (((a * 16 + b) * 16 + c) * 16 + d)

/-- The character that a backslash and a letter stand for. -/
def shortEscape? (c : CodePoint) : Option CodePoint :=
  if c == '"' || c == '\\' || c == '/' then some c
  else if c == 'b' then some (.ofNat 8)
  else if c == 'f' then some (.ofNat 12)
  else if c == 'n' then some '\n'
  else if c == 'r' then some '\r'
  else if c == 't' then some '\t'
  else none

/-- The first halves of surrogate pairs. -/
def isHighSurrogate (n : Nat) : Bool := 0xd800 ≤ n && n ≤ 0xdbff

/-- The second halves of surrogate pairs. -/
def isLowSurrogate (n : Nat) : Bool := 0xdc00 ≤ n && n ≤ 0xdfff

/-- The character of a surrogate pair. -/
def ofPair (high low : Nat) : CodePoint :=
  .ofNat (0x10000 + (high - 0xd800) * 0x400 + (low - 0xdc00))

/-- A part of a string as it is written: a character, or the code unit that an escape of four digits
names. -/
inductive Piece where
  /-- A character. -/
  | char (c : CodePoint)
  /-- A code unit. -/
  | unit (n : Nat)

/-- The text of the pieces: two code units in a row that form a surrogate pair give one character.
A half stands for itself if its other half is missing, or if either is not written as a code unit.
`pending` is the first half of a pair just passed. -/
def joinPieces : Option Nat → List Piece → Text
  | none, [] => []
  | some n, [] => [.ofNat n]
  | none, .char c :: rest => c :: joinPieces none rest
  | some n, .char c :: rest => .ofNat n :: c :: joinPieces none rest
  | none, .unit m :: rest =>
    if isHighSurrogate m then joinPieces (some m) rest else .ofNat m :: joinPieces none rest
  | some n, .unit m :: rest =>
    if isLowSurrogate m then ofPair n m :: joinPieces none rest
    else if isHighSurrogate m then .ofNat n :: joinPieces (some m) rest
    else .ofNat n :: .ofNat m :: joinPieces none rest

/-- Puts a piece before those that were read. -/
def consPiece (p : Piece) :
    Except Fault (List Piece × Cursor) → Except Fault (List Piece × Cursor)
  | .ok (ps, cursor) => .ok (p :: ps, cursor)
  | .error e => .error e

/-- Reads the pieces of a string whose opening quote, at position `start`, has been passed. -/
def readPieces (start : Nat) (pos : Nat) : Text → Except Fault (List Piece × Cursor)
  | [] => .error (.malformed .unterminatedString start)
  | '"' :: rest => .ok ([], ⟨rest, pos + 1⟩)
  | ['\\'] => .error (.malformed .unterminatedString start)
  | '\\' :: 'u' :: a :: b :: c :: d :: rest =>
    match hexValue? a b c d with
    | none => .error (.malformed .badUnicodeEscape (pos + 1))
    | some n =>
      if rest.isEmpty then .error (.malformed .badUnicodeEscape (pos + 1))
      else consPiece (.unit n) (readPieces start (pos + 6) rest)
  | '\\' :: c :: rest =>
    if c == 'u' then .error (.malformed .badUnicodeEscape (pos + 1))
    else match shortEscape? c with
      | some d => consPiece (.char d) (readPieces start (pos + 2) rest)
      | none => .error (.malformed .badEscape pos)
  | c :: rest =>
    if c.toNat < 0x20 then .error (.malformed .controlCharacter pos)
    else consPiece (.char c) (readPieces start (pos + 1) rest)

/-- Reads a string whose opening quote, at position `start`, has been passed. -/
def readString (start : Nat) (rest : Text) : Except Fault (Text × Cursor) :=
  (readPieces start (start + 1) rest).map fun (ps, next) => (joinPieces none ps, next)

/-! ### Numbers -/

/-- The decimal digits of a number's text. -/
def isDigit (c : CodePoint) : Bool := '0' ≤ c && c ≤ '9'

/-- The number that a run of digits denotes. -/
def digitsValue (ds : Text) : Nat := ds.foldl (fun n c => 10 * n + (c.toNat - '0'.toNat)) 0

/-- The fraction digits at the start of a text: those after a point, if there is one. -/
def fractionDigits : Text → Text
  | '.' :: rest => rest.takeWhile isDigit
  | _ => []

/-- The exponent at the start of a text and the number of characters it takes; no characters if a
digit is missing. -/
def exponentPart (t : Text) : Int × Nat :=
  match t with
  | e :: rest =>
    if e == 'e' || e == 'E' then
      let (negative, signed, rest) := match rest with
        | '-' :: tail => (true, 1, tail)
        | '+' :: tail => (false, 1, tail)
        | _ => (false, 0, rest)
      let ds := rest.takeWhile isDigit
      if ds.isEmpty then (0, 0)
      else
        let n : Int := digitsValue ds
        (if negative then -n else n, 1 + signed + ds.length)
    else (0, 0)
  | [] => (0, 0)

/-- The digits before the point: one zero, or digits that start with another. -/
def wholeDigits : Text → Text
  | '0' :: _ => ['0']
  | t => t.takeWhile isDigit

/-- Reads a number without its sign, if one starts here, and counts its characters. -/
def readUnsigned (negative : Bool) (t : Text) : Option (Except Fault Json × Nat) :=
  let whole := wholeDigits t
  if whole.isEmpty then none
  else
    let afterWhole := t.drop whole.length
    let fraction := fractionDigits afterWhole
    let fractionLength := if fraction.isEmpty then 0 else fraction.length + 1
    let (exponent, exponentLength) := exponentPart (afterWhole.drop fractionLength)
    let length := whole.length + fractionLength + exponentLength
    if fractionLength + exponentLength = 0 then
      if Numeral.maxDigits < whole.length then some (.error (.tooLong whole.length), length)
      else
        let n : Int := digitsValue whole
        some (.ok (.int (if negative then -n else n)), length)
    else
      let value := Binary64.ofDecimal negative (digitsValue (whole ++ fraction))
        (exponent - fraction.length)
      some (.ok (.float value), length)

/-- Reads the values that are written without brackets or quotes. -/
def readScalar (c : Cursor) : Except Fault (Json × Cursor) :=
  let starts (word : Text) : Bool := word == c.rest.take word.length
  let number (negative : Bool) (skipped : Nat) : Except Fault (Json × Cursor) :=
    match readUnsigned negative (c.rest.drop skipped) with
    | some (value, length) => value.map fun v => (v, c.skip (skipped + length))
    | none => .error (.malformed .expectingValue c.position)
  if starts "null".toText then .ok (.null, c.skip 4)
  else if starts "true".toText then .ok (.bool true, c.skip 4)
  else if starts "false".toText then .ok (.bool false, c.skip 5)
  else if starts "NaN".toText then .ok (.float .nan, c.skip 3)
  else if starts "Infinity".toText then .ok (.float (.infinite false), c.skip 8)
  else if starts "-Infinity".toText then .ok (.float (.infinite true), c.skip 9)
  else if starts ['-'] then number true 1
  else number false 0

/-! ### Values -/

/-- The greatest number of containers that may stand in one another. -/
def maxDepth : Nat := 990

mutual

/-- Reads the value that starts here. The fuel bounds the number of nested and successive parts;
`room` is the number of containers that may stand in one another. -/
def readValue : Nat → Nat → Cursor → Except Fault (Json × Cursor)
  | 0, _, c => .error (.malformed .expectingValue c.position)
  | fuel + 1, room, c =>
    match c.rest with
    | '"' :: rest =>
      (readString c.position rest).map fun (t, next) => (.str t, next)
    | '[' :: _ =>
      if room = 0 then .error (.tooDeep .array)
      else
        let inner := (c.skip 1).skipSpace
        match inner.rest with
        | ']' :: _ => .ok (.arr [], inner.skip 1)
        | _ => (readItems fuel (room - 1) inner).map fun (items, next) => (.arr items, next)
    | d :: _ =>
      if d == CodePoint.ofNat 0x7b then
        if room = 0 then .error (.tooDeep .object)
        else
          let inner := (c.skip 1).skipSpace
          match inner.rest with
          | e :: _ =>
            if e == CodePoint.ofNat 0x7d then .ok (.obj [], inner.skip 1)
            else
              (readMembers fuel (room - 1) [] inner).map fun (members, next) =>
                (.obj members, next)
          | [] => .error (.malformed .expectingName inner.position)
      else readScalar c
    | [] => .error (.malformed .expectingValue c.position)

/-- Reads the items of a list from the first one to the closing bracket. -/
def readItems : Nat → Nat → Cursor → Except Fault (List Json × Cursor)
  | 0, _, c => .error (.malformed .expectingValue c.position)
  | fuel + 1, room, c => do
    let (item, next) ← readValue fuel room c
    let next := next.skipSpace
    match next.rest with
    | ']' :: _ => .ok ([item], next.skip 1)
    | ',' :: _ => do
      let (items, last) ← readItems fuel room (next.skip 1).skipSpace
      .ok (item :: items, last)
    | _ => .error (.malformed .expectingComma next.position)

/-- Reads the members of an object from the first one to the closing brace, putting them after
those read before. -/
def readMembers :
    Nat → Nat → List (Text × Json) → Cursor → Except Fault (List (Text × Json) × Cursor)
  | 0, _, _, c => .error (.malformed .expectingName c.position)
  | fuel + 1, room, members, c =>
    match c.rest with
    | '"' :: rest => do
      let (name, next) ← readString c.position rest
      let next := next.skipSpace
      match next.rest with
      | ':' :: _ => do
        let (value, next) ← readValue fuel room (next.skip 1).skipSpace
        let next := next.skipSpace
        let members := insertMember name value members
        match next.rest with
        | ',' :: _ => readMembers fuel room members (next.skip 1).skipSpace
        | d :: _ =>
          if d == CodePoint.ofNat 0x7d then .ok (members, next.skip 1)
          else .error (.malformed .expectingComma next.position)
        | [] => .error (.malformed .expectingComma next.position)
      | _ => .error (.malformed .expectingColon next.position)
    | _ => .error (.malformed .expectingName c.position)

end

/-- Reads a text that holds one value and nothing else but space. -/
def readText (t : Text) : Except Fault Json :=
  match t with
  | c :: _ =>
    if c.toNat = 0xfeff then .error (.malformed .byteOrderMark 0) else body
  | [] => body
where
  /-- The value and the check that nothing follows it. -/
  body : Except Fault Json := do
    let (value, next) ← readValue (2 * t.length + 2) maxDepth (Cursor.skipSpace ⟨t, 0⟩)
    let next := next.skipSpace
    if next.rest.isEmpty then .ok value else .error (.malformed .extraData next.position)

/-- Why a text has no value: a problem with its line, its column and its position, the first two
counted from one; an integer of too many digits; or containers too deep in one another. -/
inductive ReadError where
  /-- A problem and its place. -/
  | malformed (problem : Problem) (line column position : Nat)
  /-- An integer of too many digits. -/
  | tooLong (digits : Nat)
  /-- A container that stands in too many others. -/
  | tooDeep (container : Container)
  deriving DecidableEq, Repr

/-- A fault with the line and the column of its position; only line feeds end a line here. -/
def Fault.locate (t : Text) : Fault → ReadError
  | .tooLong digits => .tooLong digits
  | .tooDeep container => .tooDeep container
  | .malformed problem position =>
    let before := t.take position
    .malformed problem (before.count (.char '\n') + 1)
      ((before.reverse.takeWhile (· != .char '\n')).length + 1) position

/-- The value of a text. -/
def read (t : Text) : Except ReadError Json := (readText t).mapError (Fault.locate t)

/-- The wording of a reading error. -/
def ReadError.message : ReadError → Text
  | .malformed problem line column position =>
    problem.wording ++ ": line ".toText ++ Text.decimal line ++ " column ".toText ++
      Text.decimal column ++ " (char ".toText ++ Text.decimal position ++ [.char ')']
  | .tooLong digits => Numeral.tooLongMessage digits
  | .tooDeep container =>
    "maximum recursion depth exceeded while decoding a JSON ".toText ++ container.name ++
      " from a unicode string".toText

end Json

end MultiTape
