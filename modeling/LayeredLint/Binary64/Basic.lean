/-!
# Binary floating point numbers of 64 bits

A finite number is a mantissa times a power of two. All arithmetic below is exact arithmetic on
natural numbers, so nothing hangs on the machine's own floating point unit.

- `Binary64`: the numbers, with infinities and NaNs.
- `ofRatio`: the number nearest to a fraction, ties to the even mantissa.
- `ofDecimal`: the number nearest to a decimal.
- `integer?`: the integer a number is equal to.
-/

namespace LayeredLint

/-- A number of 64 bits: `finite negative mantissa exponent` is `mantissa * 2 ^ exponent`. The
mantissa has 53 bits, or fewer where the exponent is the least one, -1074. NaNs are told apart by
their payloads. -/
inductive Binary64 where
  | nan (payload : Nat)
  | infinity (negative : Bool)
  | finite (negative : Bool) (mantissa : Nat) (exponent : Int)
  deriving DecidableEq, Repr, Inhabited

namespace Binary64

/-- The least exponent, the one of zero and of the subnormal numbers. -/
def minExponent : Int := -1074

/-- The greatest exponent of a finite number. -/
def maxExponent : Int := 971

/-- Zero of either sign, in the form that arithmetic yields. -/
def zero (negative : Bool) : Binary64 :=
  .finite negative 0 minExponent

/-- A power of two; one where the exponent is negative. -/
def twoTo (n : Int) : Nat :=
  Nat.pow 2 n.toNat

/-- A power of ten; one where the exponent is negative. -/
def tenTo (n : Int) : Nat :=
  Nat.pow 10 n.toNat

/-- Numerator and denominator of `num / den` divided by `2 ^ q`. -/
def scale (num den : Nat) (q : Int) : Nat × Nat :=
  if 0 ≤ q then (num, den * twoTo q) else (num * twoTo (-q), den)

/-- The natural number nearest to a fraction; a half goes to the even neighbour. -/
def roundHalfEven (num den : Nat) : Nat :=
  let n := num / den
  let rest := 2 * (num % den)
  if rest < den then n
  else if den < rest then n + 1
  else n + n % 2

/-- The exponent under which a positive fraction has a mantissa of 53 bits. -/
def exponentOf (num den : Nat) : Int :=
  let q : Int := (Nat.log2 num : Int) - Nat.log2 den - 52
  let (n, d) := scale num den q
  max minExponent (if n / d < twoTo 52 then q - 1 else q)

/-- The number with a rounded mantissa, which may have gained a bit. -/
def ofRounded (negative : Bool) (mantissa : Nat) (exponent : Int) : Binary64 :=
  let (m, q) := if mantissa = twoTo 53 then (twoTo 52, exponent + 1) else (mantissa, exponent)
  if maxExponent < q then .infinity negative else .finite negative m q

/-- The number nearest to `num / den`. -/
def ofRatio (negative : Bool) (num den : Nat) : Binary64 :=
  if num = 0 then zero negative
  else
    let q := exponentOf num den
    let (n, d) := scale num den q
    ofRounded negative (roundHalfEven n d) q

/-- How many decimal digits a number has. -/
def digitCount (n : Nat) : Nat :=
  (Nat.toDigits 10 n).length

/-- The number nearest to `digits * 10 ^ exponent`. Decimals far outside the range are sent to zero
and infinity at once, without computing the power. -/
def ofDecimal (negative : Bool) (digits : Nat) (exponent : Int) : Binary64 :=
  let magnitude := digitCount digits + exponent
  if digits = 0 ∨ magnitude < -330 then zero negative
  else if 310 < magnitude then .infinity negative
  else if 0 ≤ exponent then ofRatio negative (digits * tenTo exponent) 1
  else ofRatio negative digits (tenTo (-exponent))

/-- The integer that a number is equal to. -/
def integer? : Binary64 → Option Int
  | .finite negative m q =>
    let magnitude? : Option Nat :=
      if 0 ≤ q then some (m * twoTo q)
      else if m % twoTo (-q) = 0 then some (m / twoTo (-q))
      else none
    magnitude?.map fun n => if negative then -(n : Int) else n
  | _ => none

/-- Zero of either sign. -/
def isZero : Binary64 → Bool
  | .finite _ m _ => m == 0
  | _ => false

end Binary64

end LayeredLint
