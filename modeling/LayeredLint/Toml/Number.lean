import LayeredLint.Binary64.Decimal
import LayeredLint.Text.Digit
import LayeredLint.Text.Hex
import LayeredLint.Toml.Text
import LayeredLint.Value

/-!
# Numbers, dates and times in a settings document

- `Toml.readMoment?`: a date, a date with a time, or a time.
- `Toml.readNumber?`: an integer in one of four bases, or a floating point number.
-/

namespace LayeredLint.Toml

/-! ## Dates and times -/

/-- A number written with exactly `width` digits, and what follows them. -/
def takeDigits? (width : Nat) (cs : List Char) : Option (Nat × List Char) :=
  if (cs.take width).length = width ∧ (cs.take width).all Char.isDigit then
    some (Binary64.digitsValue (cs.take width), cs.drop width)
  else none

/-- What follows a character, if a text starts with it. -/
def skip? (c : Char) : List Char → Option (List Char)
  | [] => none
  | c' :: rest => if c' = c then some rest else none

/-- A number of two digits within bounds. -/
def takeTwo? (least greatest : Nat) (cs : List Char) : Option (List Char) := do
  let (n, rest) ← takeDigits? 2 cs
  if least ≤ n ∧ n ≤ greatest then some rest else none

/-- What follows hours and minutes. -/
def skipHoursMinutes? (cs : List Char) : Option (List Char) := do
  takeTwo? 0 59 (← skip? ':' (← takeTwo? 0 23 cs))

/-- What follows a time of day; a fraction of a second has at least one digit. -/
def skipTime? (cs : List Char) : Option (List Char) := do
  let rest ← takeTwo? 0 59 (← skip? ':' (← skipHoursMinutes? cs))
  match rest with
  | '.' :: d :: more => if d.isDigit then some (more.dropWhile Char.isDigit) else some rest
  | _ => some rest

/-- What follows the offset from universal time, if there is one. -/
def skipOffset (cs : List Char) : List Char :=
  match cs with
  | [] => []
  | c :: rest =>
    if c = 'Z' ∨ c = 'z' then rest
    else if c = '+' ∨ c = '-' then (skipHoursMinutes? rest).getD cs
    else cs

/-- What follows the time of a date, if there is one. -/
def skipTimeOfDate (cs : List Char) : List Char :=
  match cs with
  | [] => []
  | c :: rest =>
    if c = 'T' ∨ c = 't' ∨ c = ' ' then
      match skipTime? rest with
      | some after => skipOffset after
      | none => cs
    else cs

/-- A year with one day more. -/
def isLeap (year : Nat) : Bool :=
  year % 4 = 0 && (year % 100 ≠ 0 || year % 400 = 0)

/-- The count of days of a month. -/
def daysIn (year month : Nat) : Nat :=
  if month = 2 then (if isLeap year then 29 else 28)
  else if month = 4 ∨ month = 6 ∨ month = 9 ∨ month = 11 then 30
  else 31

/-- A date: whether the calendar has it, and what follows. Months go up to 12 and days up to 31. -/
def takeDate? (cs : List Char) : Option (Bool × List Char) := do
  let (year, rest) ← takeDigits? 4 cs
  let (month, rest) ← takeDigits? 2 (← skip? '-' rest)
  let (day, rest) ← takeDigits? 2 (← skip? '-' rest)
  if 1 ≤ month ∧ month ≤ 12 ∧ 1 ≤ day ∧ day ≤ 31 then
    some (1 ≤ year && day ≤ daysIn year month, rest)
  else none

/-- The value that stands for a date or time, kept as it is written. -/
def momentBefore (cs rest : List Char) : Value :=
  .moment (String.ofList (cs.take (cs.length - rest.length)))

/-- A date with or without a time, or a time alone, if the text starts with one. -/
def readMoment? (cs : List Char) : Option (Except Fault (Value × List Char)) :=
  match takeDate? cs with
  | some (false, _) => some malformed
  | some (true, rest) =>
    let rest := skipTimeOfDate rest
    some (.ok (momentBefore cs rest, rest))
  | none => (skipTime? cs).map fun rest => .ok (momentBefore cs rest, rest)

/-! ## Numbers -/

/-- The digits at the front of a text, and what follows. An underscore may stand between two of
them and is left out. -/
def takeGrouped (isDigit : Char → Bool) : List Char → List Char × List Char
  | [] => ([], [])
  | [c] => if isDigit c then ([c], []) else ([], [c])
  | c :: d :: rest =>
    if isDigit c then
      if d = '_' then
        match rest with
        | [] => ([c], d :: rest)
        | e :: _ =>
          if isDigit e then
            let (digits, after) := takeGrouped isDigit rest
            (c :: digits, after)
          else ([c], d :: rest)
      else
        let (digits, after) := takeGrouped isDigit (d :: rest)
        (c :: digits, after)
    else ([], c :: d :: rest)

/-- The number written by digits of a base. -/
def numberIn (base : Nat) (digits : List Char) : Nat :=
  digits.foldl (fun n c => base * n + (Text.hexValue? c).getD 0) 0

/-- A digit of a base. -/
def isDigitOf (base : Nat) (c : Char) : Bool :=
  (Text.hexValue? c).any (· < base)

/-- The base that a letter after a zero stands for. -/
def baseOf? : Char → Option Nat
  | 'x' => some 16
  | 'o' => some 8
  | 'b' => some 2
  | _ => none

/-- An integer with a letter for its base. -/
def readBased? : List Char → Option (Value × List Char)
  | '0' :: letter :: rest => do
    let base ← baseOf? letter
    let (digits, after) := takeGrouped (isDigitOf base) rest
    if digits.isEmpty then none else some (.int (numberIn base digits), after)
  | _ => none

/-- A fraction: a point and digits. -/
def takeFraction (cs : List Char) : List Char × List Char :=
  match cs with
  | '.' :: rest =>
    let (digits, after) := takeGrouped Char.isDigit rest
    if digits.isEmpty then ([], cs) else ('.' :: digits, after)
  | _ => ([], cs)

/-- A sign at the front, if there is one. -/
def takeSignChar : List Char → List Char × List Char
  | c :: rest => if c = '+' ∨ c = '-' then ([c], rest) else ([], c :: rest)
  | [] => ([], [])

/-- An exponent: `e`, a sign or none, and digits. -/
def takeExponent (cs : List Char) : List Char × List Char :=
  match cs with
  | [] => ([], [])
  | e :: rest =>
    if e = 'e' ∨ e = 'E' then
      let (sign, body) := takeSignChar rest
      let (digits, after) := takeGrouped Char.isDigit body
      if digits.isEmpty then ([], cs) else ('e' :: sign ++ digits, after)
    else ([], cs)

/-- The whole part of a number: a zero, or digits that start with another. -/
def takeWhole (cs : List Char) : List Char × List Char :=
  match cs with
  | '0' :: rest => (['0'], rest)
  | _ => takeGrouped Char.isDigit cs

/-- A number in base ten, if a text starts with one. -/
def readDecimal? (cs : List Char) : Option (Except Fault (Value × List Char)) :=
  let (sign, body) := takeSignChar cs
  let (whole, rest) := takeWhole body
  if whole.isEmpty then none
  else
    let (fraction, rest) := takeFraction rest
    let (exponent, rest) := takeExponent rest
    if fraction.isEmpty && exponent.isEmpty then
      if Text.digitLimit < whole.length then some (.error .longInteger)
      else
        let n : Int := Binary64.digitsValue whole
        some (.ok (.int (if sign = ['-'] then -n else n), rest))
    else
      (Binary64.read? (sign ++ whole ++ fraction ++ exponent)).map fun x => .ok (.float x, rest)

/-- The words for infinity and NaN, and what follows the one at the front. -/
def readSpecial? (cs : List Char) : Option (Value × List Char) :=
  let (sign, body) := takeSignChar cs
  if body.take 3 = ['i', 'n', 'f'] then some (.float (.infinity (sign = ['-'])), body.drop 3)
  else if body.take 3 = ['n', 'a', 'n'] then some (.float (.nan 0), body.drop 3)
  else none

/-- A number of any form, if a text starts with one. -/
def readNumber? (cs : List Char) : Option (Except Fault (Value × List Char)) :=
  match readBased? cs with
  | some found => some (.ok found)
  | none =>
    match readDecimal? cs with
    | some reading => some reading
    | none => (readSpecial? cs).map .ok

end LayeredLint.Toml
