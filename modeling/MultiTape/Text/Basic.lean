import MultiTape.Text.CodePoint

/-!
# Text

Text as the list of its characters, and the ways the library cuts and joins it.

## Main definitions

* `Text.lines`: the lines of a text, with their breaks removed
* `Text.words`: the maximal runs of characters that are not blank
* `Text.trimBy`, `Text.trim`: a text without the characters at its ends that a test accepts
* `Text.decimal`: an integer in decimal notation
* `String.toText`: the text of a string

Blank characters and line breaks are different sets: a tab is blank and ends no line, and U+001F
is blank but, unlike its three neighbours below, ends no line either.
-/

namespace MultiTape

/-- Text is the list of its characters: lengths, positions and comparisons count characters. -/
abbrev Text := List CodePoint

end MultiTape

/-- The text of a string. -/
def String.toText (s : String) : MultiTape.Text := s.toList.map .char

namespace MultiTape

namespace Text

/-- The string of a text, with the replacement character for halves of surrogate pairs. -/
def string (t : Text) : String :=
  String.ofList (t.map fun
    | .char c => c
    | .surrogate _ => Char.ofNat 0xfffd)

/-! ### Character classes -/

/-- The characters that separate words. -/
def isBlank (c : CodePoint) : Bool :=
  let n := c.toNat
  (9 ≤ n && n ≤ 13) || (0x1c ≤ n && n ≤ 0x20) || n == 0x85 || n == 0xa0 || n == 0x1680 ||
    (0x2000 ≤ n && n ≤ 0x200a) || n == 0x2028 || n == 0x2029 || n == 0x202f || n == 0x205f ||
    n == 0x3000

/-- The characters that end a line. -/
def isLineBreak (c : CodePoint) : Bool :=
  let n := c.toNat
  (10 ≤ n && n ≤ 13) || (0x1c ≤ n && n ≤ 0x1e) || n == 0x85 || n == 0x2028 || n == 0x2029

/-! ### Cutting -/

/-- The lines of a text. A carriage return and the line feed after it are one break, and a break at
the very end of the text opens no further line. -/
def lines : Text → List Text
  | [] => []
  | '\r' :: '\n' :: rest => [] :: lines rest
  | c :: rest =>
    if isLineBreak c then [] :: lines rest
    else match lines rest with
      | [] => [[c]]
      | line :: more => (c :: line) :: more

/-- The maximal runs of characters that are not blank, in order. -/
def words : Text → List Text
  | [] => []
  | c :: rest =>
    if isBlank c then words rest
    else match rest with
      | [] => [[c]]
      | d :: _ =>
        if isBlank d then [c] :: words rest
        else match words rest with
          | [] => [[c]]
          | word :: more => (c :: word) :: more

/-- A text without the characters at both ends that `p` accepts; those inside stay. -/
def trimBy (p : CodePoint → Bool) (t : Text) : Text :=
  ((t.dropWhile p).reverse.dropWhile p).reverse

/-- A text without the blank characters at its ends. -/
def trim (t : Text) : Text := trimBy isBlank t

/-- Every line break spelled with a carriage return becomes a line feed. -/
def unifyNewlines : Text → Text
  | [] => []
  | '\r' :: '\n' :: rest => '\n' :: unifyNewlines rest
  | '\r' :: rest => '\n' :: unifyNewlines rest
  | c :: rest => c :: unifyNewlines rest

/-! ### Building -/

/-- The digits of a number in some base. -/
def digits (base n : Nat) : Text := (Nat.toDigits base n).map .char

/-- An integer in decimal notation, without leading zeros and with a sign only below zero. -/
def decimal (n : Int) : Text :=
  match n with
  | .ofNat k => digits 10 k
  | .negSucc k => '-' :: digits 10 (k + 1)

/-- A text with `fill` put before it until it has `width` characters. -/
def padLeft (fill : CodePoint) (width : Nat) (t : Text) : Text :=
  List.replicate (width - t.length) fill ++ t

/-- The lower-case hexadecimal digits of a number, at least `width` of them. -/
def hexadecimal (width n : Nat) : Text := padLeft '0' width (digits 16 n)

/-- Whether a text comes before another, or equals it, in the order of the characters' code points.
-/
def le : Text → Text → Bool
  | [], _ => true
  | _ :: _, [] => false
  | a :: as, b :: bs => a.toNat < b.toNat || (a == b && le as bs)

/-- Texts in the order of their characters' code points. -/
def sort (texts : List Text) : List Text := texts.mergeSort le

end Text

end MultiTape
