import MultiTape.Decimal.Binary64
import MultiTape.Text.Basic

/-!
# Shortest decimals

The decimal of fewest digits that is read back as a given floating-point number and, among those of
that length, the one nearest to it.

## Main definitions

* `Shortest.digits`: the significant digits, as one number, and the power of ten of the last one
* `Shortest.render`: the text of a number
-/

namespace MultiTape

namespace Shortest

/-- The exponent of the leading decimal digit of `num / den`, which lies above `10 ^ -400`. -/
def leadingExponent (num den : Nat) : Int :=
  ((Nat.toDigits 10 (num * Binary64.powTen 400 / den)).length : Int) - 401

/-- The number, of one that the first `count` decimal digits of `mantissa * 2 ^ exponent` give and
its successor, that is read back as it; the nearer one if both are, the even one of two equally
near. `u` is the power of ten of the last digit. -/
def candidate? (mantissa : Nat) (exponent u : Int) : Option Nat :=
  let e := exponent - 2
  let up := Binary64.powTwo e.toNat * Binary64.powTen (-u).toNat
  let unit := Binary64.powTen u.toNat * Binary64.powTwo (-e).toNat
  let value := 4 * mantissa * up
  let atPowerOfTwo :=
    mantissa = Binary64.powTwo (Binary64.mantissaBits - 1) ∧ exponent ≠ Binary64.minExponent
  let below := if atPowerOfTwo then 1 else 2
  let low := (4 * mantissa - below) * up
  let high := (4 * mantissa + 2) * up
  let inside (c : Nat) : Bool :=
    if mantissa % 2 = 0 then low ≤ c * unit ∧ c * unit ≤ high
    else low < c * unit ∧ c * unit < high
  let c := value / unit
  let toLower := value - c * unit
  let toUpper := (c + 1) * unit - value
  match inside c, inside (c + 1) with
  | true, true =>
    if toLower < toUpper ∨ toLower = toUpper ∧ c % 2 = 0 then some c else some (c + 1)
  | true, false => some c
  | false, true => some (c + 1)
  | false, false => none

/-- Takes the zeros off the end of a number's digits. -/
def dropZeros : Nat → Nat → Int → Nat × Int
  | 0, c, u => (c, u)
  | fuel + 1, c, u => if c ≠ 0 ∧ c % 10 = 0 then dropZeros fuel (c / 10) (u + 1) else (c, u)

/-- The shortest significant digits of `mantissa * 2 ^ exponent`, which is not zero, and the power
of ten of the last one. Seventeen digits always suffice. -/
def digits (mantissa : Nat) (exponent : Int) : Nat × Int :=
  let lead := leadingExponent (mantissa * Binary64.powTwo exponent.toNat)
    (Binary64.powTwo (-exponent).toNat)
  let attempt (count : Nat) : Option (Nat × Int) :=
    let u := lead - count
    (candidate? mantissa exponent u).map fun c => dropZeros 20 c u
  ((List.range 17).findSome? attempt).getD (0, 0)

/-- The text of a number with the given significant digits: positional when the leading digit stands
for a power of ten from `-4` to `15`, and in exponent form otherwise. -/
def renderDigits (c : Nat) (u : Int) : Text :=
  let ds := Text.digits 10 c
  let lead := u + ds.length - 1
  if -4 ≤ lead ∧ lead < 16 then
    if lead < 0 then "0.".toText ++ List.replicate (-lead - 1).toNat (.char '0') ++ ds
    else if 0 ≤ u then ds ++ List.replicate u.toNat (.char '0') ++ ".0".toText
    else ds.take (lead.toNat + 1) ++ .char '.' :: ds.drop (lead.toNat + 1)
  else
    let fraction := if ds.length = 1 then [] else .char '.' :: ds.drop 1
    let sign : CodePoint := if lead < 0 then '-' else '+'
    ds.take 1 ++ fraction ++ .char 'e' :: sign :: Text.padLeft '0' 2 (Text.digits 10 lead.natAbs)

/-- The text of a floating-point number; the texts of an infinity and of the value that is not a
number are given. -/
def render (infinity nan : Text) : Binary64 → Text
  | .nan => nan
  | .infinite negative => (if negative then [.char '-'] else []) ++ infinity
  | .finite negative m e =>
    (if negative then [.char '-'] else []) ++
      if m = 0 then "0.0".toText else
        let (c, u) := digits m e
        renderDigits c u

end Shortest

end MultiTape
