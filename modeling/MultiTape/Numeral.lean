import MultiTape.Text.DecimalDigit
import MultiTape.Text.Quoted

/-!
# Numerals

Reading an integer: an optional sign and then decimal digits of any script, where a single
underscore may stand between two digits. Spaces around the numeral are skipped, and a numeral of
more than 4300 digits is neither read nor shown.
-/

namespace MultiTape

namespace Numeral

/-- The greatest number of digits that a numeral may have, leading zeros included. -/
def maxDigits : Nat := 4300

/-- Why a text is not a numeral. -/
inductive Fault where
  /-- The text is not a sign and digits. -/
  | malformed
  /-- The text starts with more digits than a numeral may have. -/
  | tooLong (digits : Nat)
  deriving DecidableEq, Repr

/-- The characters skipped around a numeral: all blank ones but U+001C to U+001F. -/
def isMargin (c : CodePoint) : Bool := Text.isBlank c && !(0x1c ≤ c.toNat && c.toNat ≤ 0x1f)

/-- The digits at the start of a text and what follows them, or nothing if an underscore does not
stand between two digits or there is no digit. `afterDigit` says whether a digit came just before.
-/
def scanDigits (afterDigit : Bool) : Text → Option (List Nat × Text)
  | [] => if afterDigit then some ([], []) else none
  | c :: rest =>
    if c == '_' then
      if afterDigit then scanDigits false rest else none
    else match Text.digit? c with
      | some d => (scanDigits true rest).map fun (digits, tail) => (d :: digits, tail)
      | none => if afterDigit then some ([], c :: rest) else none

/-- The number that decimal digits denote, the first digit being the highest. -/
def ofDigits (digits : List Nat) : Nat := digits.foldl (fun n d => 10 * n + d) 0

/-- Reads an unsigned numeral up to the end of the text. -/
def readNat (t : Text) : Except Fault Nat :=
  match scanDigits false t with
  | none => .error .malformed
  | some (digits, tail) =>
    if maxDigits < digits.length then .error (.tooLong digits.length)
    else if tail.all isMargin then .ok (ofDigits digits)
    else .error .malformed

/-- Reads an integer. -/
def read (t : Text) : Except Fault Int :=
  match t.dropWhile isMargin with
  | '+' :: rest => (readNat rest).map Int.ofNat
  | '-' :: rest => (readNat rest).map fun n => -Int.ofNat n
  | rest => (readNat rest).map Int.ofNat

/-- Whether an integer is too long to be shown. -/
def isTooLong (n : Int) : Bool := maxDigits < (Text.decimal n.natAbs).length

/-- The wording for too many digits, with a remark on their number. -/
def limitMessage (remark : Text) : Text :=
  "Exceeds the limit (".toText ++ Text.decimal maxDigits ++
    " digits) for integer string conversion".toText ++ remark ++
    "; use sys.set_int_max_str_digits() to increase the limit".toText

/-- The wording for a numeral of too many digits. -/
def tooLongMessage (digits : Nat) : Text :=
  limitMessage (": value has ".toText ++ Text.decimal digits ++ " digits".toText)

/-- The wording of a fault found in `t`; of the text itself at most 200 characters are shown. -/
def Fault.message (f : Fault) (t : Text) : Text :=
  match f with
  | .malformed =>
    "invalid literal for int() with base 10: ".toText ++ (Text.quoted t).take 200
  | .tooLong digits => tooLongMessage digits

end Numeral

end MultiTape
