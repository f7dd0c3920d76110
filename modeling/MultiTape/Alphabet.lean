import MultiTape.Json.Basic

/-!
# Alphabets

An alphabet is a range of characters, its letters, and a blank outside of the range. Words consist
of letters; tapes and transitions may hold the blank too.

## Main definitions

* `Alphabet`: the alphabets, with the two facts that make them one
* `Alphabet.ofValues`: the alphabet of three settings, or what is wrong with them
* `Alphabet.isWord`, `Alphabet.isSymbol`: the texts that are words, or single symbols
* `Alphabet.trim`: a text without the blanks at its ends
-/

namespace MultiTape

/-- A range of letters and a blank outside of it. -/
structure Alphabet where
  /-- The first letter. -/
  first : CodePoint
  /-- The last letter. -/
  last : CodePoint
  /-- The content of an unwritten cell. -/
  blank : CodePoint
  /-- There is a letter. -/
  first_le_last : first ≤ last
  /-- The blank is no letter. -/
  blank_outside : ¬(first ≤ blank ∧ blank ≤ last)
  deriving DecidableEq

namespace Alphabet

/-- The letters `a` to `z` with the blank `~`. -/
def standard : Alphabet := ⟨'a', 'z', '~', by decide, by decide⟩

instance : Inhabited Alphabet := ⟨standard⟩

/-- Whether a character is a letter. -/
def isLetter (a : Alphabet) (c : CodePoint) : Bool := decide (a.first ≤ c ∧ c ≤ a.last)

/-- Whether a text is a single letter. -/
def hasLetter (a : Alphabet) : Text → Bool
  | [c] => a.isLetter c
  | _ => false

/-- Whether a text may stand in a cell: a single letter or the blank. -/
def isSymbol (a : Alphabet) (t : Text) : Bool := a.hasLetter t || t == [a.blank]

/-- Whether a text is a word: letters only. The empty text is one. -/
def isWord (a : Alphabet) (t : Text) : Bool := t.all a.isLetter

/-- A text without the blanks at its ends; those inside stay. -/
def trim (a : Alphabet) (t : Text) : Text := Text.trimBy (· == a.blank) t

/-! ### Alphabets from settings -/

/-- The three settings of an alphabet. -/
inductive Field where
  /-- The first letter. -/
  | first
  /-- The last letter. -/
  | last
  /-- The blank. -/
  | blank
  deriving DecidableEq, Repr

/-- The name of a setting. -/
def Field.name : Field → Text
  | .first => "first".toText
  | .last => "last".toText
  | .blank => "blank".toText

/-- Why three settings are no alphabet. -/
inductive Error where
  /-- A setting is not a text of one character. -/
  | notOneCharacter (field : Field) (value : Json)
  /-- The last letter comes before the first. -/
  | emptyRange (first last : CodePoint)
  /-- The blank is one of the letters. -/
  | blankInside (blank first last : CodePoint)

/-- A range as messages show it. -/
def rangeText (first last : CodePoint) : Text :=
  .char '\'' :: first :: "'..'".toText ++ [last, '\'']

/-- The wording of an alphabet error. -/
def Error.message : Error → Text
  | .notOneCharacter field value =>
    "Alphabet '".toText ++ field.name ++ "' must be a single character, got ".toText ++
      value.display ++ [.char '.']
  | .emptyRange first last =>
    "Alphabet range ".toText ++ rangeText first last ++ " is empty.".toText
  | .blankInside blank first last =>
    "Blank symbol ".toText ++ Text.quoted [blank] ++ " lies inside ".toText ++
      rangeText first last ++ [.char '.']

/-- The one character of a setting. -/
def character (field : Field) : Json → Except Error CodePoint
  | .str [c] => .ok c
  | value => .error (.notOneCharacter field value)

/-- The alphabet of three settings. Each must be one character; then the range must not be empty;
then the blank must lie outside. -/
def ofValues (first last blank : Json) : Except Error Alphabet := do
  let first ← character .first first
  let last ← character .last last
  let blank ← character .blank blank
  if h : first ≤ last then
    if h' : first ≤ blank ∧ blank ≤ last then .error (.blankInside blank first last)
    else .ok ⟨first, last, blank, h, h'⟩
  else .error (.emptyRange first last)

/-- An alphabet as listings show it. -/
def display (a : Alphabet) : Text :=
  "Alphabet(first=".toText ++ Text.quoted [a.first] ++ ", last=".toText ++ Text.quoted [a.last] ++
    ", blank=".toText ++ Text.quoted [a.blank] ++ [.char ')']

end Alphabet

end MultiTape
