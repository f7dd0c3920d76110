/-!
# Floating-point numbers

The double-precision numbers as exact values: a sign, a mantissa below `2 ^ 53` and a power of two.
A decimal is read to the nearest of them, a half going to the even mantissa.

## Main definitions

* `Binary64`: the numbers, with the infinities and one value that is not a number
* `Binary64.ofDecimal`: the number nearest to `n · 10 ^ e`
-/

namespace MultiTape

/-- A double-precision number. A finite one is `mantissa * 2 ^ exponent`, where the mantissa is
below `2 ^ 53` and, unless the exponent is `-1074`, not below `2 ^ 52`. -/
inductive Binary64 where
  /-- The value that is not a number. -/
  | nan
  /-- An infinity. -/
  | infinite (negative : Bool)
  /-- A finite number; zero has a sign too. -/
  | finite (negative : Bool) (mantissa : Nat) (exponent : Int)
  deriving DecidableEq, Repr

namespace Binary64

/-- A power of two. -/
def powTwo (k : Nat) : Nat := Nat.pow 2 k

/-- A power of ten. -/
def powTen (k : Nat) : Nat := Nat.pow 10 k

/-- The number of bits in a mantissa. -/
def mantissaBits : Nat := 53

/-- The exponent of the smallest numbers. -/
def minExponent : Int := -1074

/-- The exponent of the greatest finite numbers. -/
def maxExponent : Int := 971

/-- The quotient of two numbers rounded to the nearest integer, a half going to the even one. -/
def roundDiv (num den : Nat) : Nat :=
  let q := num / den
  let r := num % den
  if den < 2 * r then q + 1
  else if 2 * r = den ∧ q % 2 = 1 then q + 1
  else q

/-- The quotient `num / (den * 2 ^ e)` as numerator and denominator. -/
def scaled (num den : Nat) (e : Int) : Nat × Nat :=
  match e with
  | .ofNat k => (num, den * powTwo k)
  | .negSucc k => (num * powTwo (k + 1), den)

/-- The number nearest to `num / den`, where neither is zero. -/
def ofRatio (negative : Bool) (num den : Nat) : Binary64 :=
  let guess : Int := (num.log2 : Int) - den.log2 - mantissaBits
  let (n, d) := scaled num den guess
  let exact := if powTwo mantissaBits ≤ n / d then guess + 1 else guess
  let e := max exact minExponent
  let (n, d) := scaled num den e
  let m := roundDiv n d
  let (m, e) := if m = powTwo mantissaBits then (powTwo (mantissaBits - 1), e + 1) else (m, e)
  if maxExponent < e then .infinite negative else .finite negative m e

/-- The number nearest to `n * 10 ^ e`. -/
def ofDecimal (negative : Bool) (n : Nat) (e : Int) : Binary64 :=
  let magnitude := ((Nat.toDigits 10 n).length : Int) + e
  if n = 0 ∨ magnitude < -330 then .finite negative 0 minExponent
  else if 310 < magnitude then .infinite negative
  else match e with
    | .ofNat k => ofRatio negative (n * powTen k) 1
    | .negSucc k => ofRatio negative n (powTen (k + 1))

/-- Whether two numbers count as the same key: the two zeros do, and so does the value that is not a
number with itself. -/
def sameValue : Binary64 → Binary64 → Bool
  | .nan, .nan => true
  | .finite s m e, .finite s' m' e' => m = 0 ∧ m' = 0 ∨ s = s' ∧ m = m' ∧ e = e'
  | .infinite s, .infinite s' => s = s'
  | _, _ => false

/-- Whether a number is exactly an integer. -/
def isInt (x : Binary64) (n : Int) : Bool :=
  match x with
  | .finite negative m e =>
    let signed : Int := if negative then -(m : Int) else m
    match e with
    | .ofNat k => n = signed * (powTwo k : Nat)
    | .negSucc k => n * (powTwo (k + 1) : Nat) = signed
  | _ => false

end Binary64

end MultiTape
