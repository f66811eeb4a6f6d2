import LayeredLint.Binary64.Basic
import LayeredLint.Text.Blank
import LayeredLint.Text.Digit

/-!
# Decimal text of a binary number

- `shortest`: the fewest digits that read back as the number, and of those the nearest.
- `text`: a number as messages and documents show it.
- `read?`: the number nearest to a decimal text.
- `ofText?`: the same for a text as people write it, with blanks, underscores and other digits.
-/

namespace LayeredLint.Binary64

/-! ## The shortest digits -/

/-- The numbers that round to `mantissa * 2 ^ exponent`, in quarters of its last place: the value
itself and the two ends. Below a power of two the next number is only half a place away. -/
structure Neighbourhood where
  value : Nat
  low : Nat
  high : Nat
  /-- Whether the ends still round to the value: they do where the mantissa is even. -/
  closed : Bool

/-- The neighbourhood of a positive finite number. -/
def neighbourhood (mantissa : Nat) (exponent : Int) : Neighbourhood where
  value := 4 * mantissa
  low := if mantissa = twoTo 52 ∧ minExponent < exponent then 4 * mantissa - 1 else 4 * mantissa - 2
  high := 4 * mantissa + 2
  closed := mantissa % 2 = 0

/-- Whether `digits` grid steps lie in a neighbourhood, where a quarter of the last place is
`num / den` grid steps. -/
def Neighbourhood.admits (nb : Neighbourhood) (num den digits : Nat) : Bool :=
  if nb.closed then nb.low * num ≤ digits * den && digits * den ≤ nb.high * num
  else nb.low * num < digits * den && digits * den < nb.high * num

/-- The point of one decimal grid that reads back, the nearer one where both neighbours of the
value do. -/
def Neighbourhood.onGrid? (nb : Neighbourhood) (num den : Nat) : Option Nat :=
  let below := nb.value * num / den
  let rest := 2 * (nb.value * num % den)
  match nb.admits num den below && below != 0, nb.admits num den (below + 1) with
  | true, true =>
    some (if rest < den then below else if den < rest then below + 1 else below + below % 2)
  | true, false => some below
  | false, true => some (below + 1)
  | false, false => none

/-- A quarter of the last place at `exponent`, in steps of the grid `10 ^ place`. -/
def quarterOnGrid (exponent place : Int) : Nat × Nat :=
  let (num, den) :=
    if 2 ≤ exponent then (twoTo (exponent - 2), 1) else (1, twoTo (2 - exponent))
  if 0 ≤ place then (num, den * tenTo place) else (num * tenTo (-place), den)

/-- The number of digits before the point of `mantissa * 2 ^ exponent`; zero or less for a number
below a tenth. -/
def pointPosition (mantissa : Nat) (exponent : Int) : Int :=
  let num := if 0 ≤ exponent then mantissa * twoTo exponent else mantissa
  let den := if 0 ≤ exponent then 1 else twoTo (-exponent)
  let guess : Int := (digitCount num : Int) - digitCount den
  let reached :=
    if 0 ≤ guess then den * tenTo guess ≤ num else den ≤ num * tenTo (-guess)
  if reached then guess + 1 else guess

/-- Try grids of `count`, `count + 1`, … digits, `fuel` of them. -/
def shortestFrom (nb : Neighbourhood) (exponent point : Int) : (fuel count : Nat) → Nat × Int
  | 0, count => (0, point - count)
  | fuel + 1, count =>
    let place := point - count
    let (num, den) := quarterOnGrid exponent place
    match nb.onGrid? num den with
    | some digits => (digits, place)
    | none => shortestFrom nb exponent point fuel (count + 1)

/-- The fewest digits that read back as `mantissa * 2 ^ exponent`, and their place: seventeen
always do. -/
def shortest (mantissa : Nat) (exponent : Int) : Nat × Int :=
  shortestFrom (neighbourhood mantissa exponent) exponent (pointPosition mantissa exponent) 17 1

/-! ## Text -/

/-- Digits without the zeros at their end. -/
def dropTrailingZeros (digits : List Char) : List Char :=
  (digits.reverse.dropWhile (· = '0')).reverse

/-- An exponent with its sign and at least two digits. -/
def exponentText (e : Int) : List Char :=
  let digits := Nat.toDigits 10 e.natAbs
  let padded := if digits.length < 2 then '0' :: digits else digits
  (if e < 0 then '-' else '+') :: padded

/-- Digits with a decimal point after the first `point` of them. Positional from a ten-thousandth
up to below ten to the sixteenth, always with a digit on both sides of the point; with an
exponent outside, and then without a point after a single digit. -/
def placePoint (digits : List Char) (point : Int) : List Char :=
  if -4 < point ∧ point ≤ 16 then
    if point ≤ 0 then '0' :: '.' :: List.replicate (-point).toNat '0' ++ digits
    else if digits.length ≤ point.toNat then
      digits ++ List.replicate (point.toNat - digits.length) '0' ++ ['.', '0']
    else digits.take point.toNat ++ '.' :: digits.drop point.toNat
  else
    let fraction := digits.drop 1
    digits.take 1 ++ (if fraction.isEmpty then [] else '.' :: fraction) ++
      'e' :: exponentText (point - 1)

/-- The text of a number: the shortest digits that read back as it. -/
def text : Binary64 → String
  | .nan _ => "nan"
  | .infinity negative => if negative then "-inf" else "inf"
  | .finite negative m q =>
    let magnitude :=
      if m = 0 then ['0', '.', '0']
      else
        let (n, place) := shortest m q
        let digits := Nat.toDigits 10 n
        placePoint (dropTrailingZeros digits) (digits.length + place)
    String.ofList (if negative then '-' :: magnitude else magnitude)

/-! ## Reading -/

/-- The number written by a text of decimal digits, none for no digits. -/
def digitsValue (cs : List Char) : Nat :=
  cs.foldl (fun n c => 10 * n + (c.toNat - 48)) 0

/-- Take a sign off the front. -/
def takeSign : List Char → Bool × List Char
  | '-' :: rest => (true, rest)
  | '+' :: rest => (false, rest)
  | cs => (false, cs)

/-- The exponent part of a decimal text: empty, or `e` and an integer. -/
def readExponent? : List Char → Option Int
  | [] => some 0
  | e :: rest =>
    if e = 'e' ∨ e = 'E' then
      let (negative, digits) := takeSign rest
      if digits.isEmpty ∨ !digits.all Char.isDigit then none
      else some (if negative then -(digitsValue digits : Int) else digitsValue digits)
    else none

/-- The number nearest to a decimal text, or one of the words for infinity and NaN. -/
def read? (cs : List Char) (payload : Nat := 0) : Option Binary64 :=
  let (negative, cs) := takeSign cs
  let word := String.ofList (cs.map Char.toLower)
  if word = "inf" ∨ word = "infinity" then some (.infinity negative)
  else if word = "nan" then some (.nan payload)
  else
    let whole := cs.takeWhile Char.isDigit
    let rest := cs.dropWhile Char.isDigit
    let (fraction, rest) := match rest with
      | '.' :: rest => (rest.takeWhile Char.isDigit, rest.dropWhile Char.isDigit)
      | _ => ([], rest)
    if whole.isEmpty && fraction.isEmpty then none
    else (readExponent? rest).map fun e =>
      ofDecimal negative (digitsValue (whole ++ fraction)) (e - fraction.length)

/-! ## Reading what people write -/

/-- A character of a number in ASCII: any blank counts as a space, any decimal digit as that of
ASCII, and what is neither belongs to no number. -/
def plainChar (c : Char) : Char :=
  if c.toNat < 127 then c
  else if Text.isBlank c then ' '
  else match Text.digitValue? c with
    | some n => Char.ofNat (48 + n)
    | none => '?'

/-- The blanks around a number in ASCII. -/
def isOuterBlank (c : Char) : Bool :=
  c = ' ' || (9 ≤ c.toNat && c.toNat ≤ 13)

/-- A number without its underscores, each of which stands between two digits. -/
def joinedDigits? (afterDigit : Bool) : List Char → Option (List Char)
  | [] => some []
  | '_' :: c :: rest =>
    if afterDigit && c.isDigit then (joinedDigits? true rest).map (c :: ·) else none
  | ['_'] => none
  | c :: rest => (joinedDigits? c.isDigit rest).map (c :: ·)

/-- The number nearest to a text as people write it. A NaN gets the payload. -/
def ofText? (payload : Nat) (cs : List Char) : Option Binary64 := do
  let plain := cs.map plainChar
  let trimmed := ((plain.dropWhile isOuterBlank).reverse.dropWhile isOuterBlank).reverse
  read? (← joinedDigits? false trimmed) payload

end LayeredLint.Binary64
