import LayeredLint.Binary64.Decimal
import LayeredLint.Text.Digit
import LayeredLint.Text.Hex
import LayeredLint.Value.Key

/-!
# Reading JSON

A document is read from the left and refused at the first place where it can no longer be one. The
names of NaN and infinity are numbers, and of members with one name the last decides.

- `Json.Fault`: why a document is refused, and where.
- `Json.Fault.message`: its wording, with line and column.
- `Json.readValue`, `Json.readItems`, `Json.readMembers`: one value, the rest of an array, the rest
  of an object, each with what follows it.
- `Json.Limits`: how much of a document is read.
- `Json.readWithin`, `Json.read`: a whole document, within some limits and within the usual ones.
-/

namespace LayeredLint.Json

/-- Why a document is refused. -/
inductive Cause where
  | expectedValue
  | expectedName
  | expectedColon
  | expectedComma
  | openString
  | controlCharacter
  | badEscape
  | badUnicodeEscape
  | extraData
  | byteOrderMark
  /-- An integer has more digits than are converted. -/
  | longInteger
  /-- Arrays and objects are nested too deeply. -/
  | tooDeep
  deriving DecidableEq, Repr

/-- The wording of a cause. -/
def Cause.message : Cause → String
  | .expectedValue => "Expecting value"
  | .expectedName => "Expecting property name enclosed in double quotes"
  | .expectedColon => "Expecting ':' delimiter"
  | .expectedComma => "Expecting ',' delimiter"
  | .openString => "Unterminated string starting at"
  | .controlCharacter => "Invalid control character at"
  | .badEscape => "Invalid \\escape"
  | .badUnicodeEscape => "Invalid \\uXXXX escape"
  | .extraData => "Extra data"
  | .byteOrderMark => "Unexpected UTF-8 BOM (decode using utf-8-sig)"
  | .longInteger => "Exceeds the limit for integer string conversion"
  | .tooDeep => "Maximum depth exceeded"

/-- A refusal: its cause, and how many characters of the document were left there. -/
structure Fault where
  cause : Cause
  left : Nat
  deriving DecidableEq, Repr

/-- The refusal at the place where `rest` is left to read. -/
def refuse {α : Type} (cause : Cause) (rest : List Char) : Except Fault α :=
  .error ⟨cause, rest.length⟩

/-- The line and column, from one, of the place after the characters `before`. -/
def lineAndColumn (before : List Char) : Nat × Nat :=
  (before.count '\n' + 1, (before.reverse.takeWhile (· ≠ '\n')).length + 1)

/-- The wording of a refusal of `document`. -/
def Fault.message (document : String) (fault : Fault) : String :=
  let cs := document.toList
  let position := cs.length - fault.left
  let (line, column) := lineAndColumn (cs.take position)
  fault.cause.message ++ ": line " ++ toString line ++ " column " ++ toString column ++
    " (char " ++ toString position ++ ")"

/-! ## Texts -/

/-- The first half of a surrogate pair. -/
def isHighSurrogate (n : Nat) : Bool :=
  0xD800 ≤ n && n < 0xDC00

/-- The second half of a surrogate pair. -/
def isLowSurrogate (n : Nat) : Bool :=
  0xDC00 ≤ n && n < 0xE000

/-- The code point of a surrogate pair. -/
def joinSurrogates (high low : Nat) : Nat :=
  0x10000 + (high - 0xD800) * 0x400 + (low - 0xDC00)

/-- The unit of an escape, given what follows its `u`: four digits that the text does not end
with. -/
def readUnit? : List Char → Option (Nat × List Char)
  | a :: b :: c :: d :: e :: rest => (Text.hexNumber? [a, b, c, d]).map (·, e :: rest)
  | _ => none

/-- The character of a one-letter escape. -/
def shortEscape? : Char → Option Char
  | '"' => some '"'
  | '\\' => some '\\'
  | '/' => some '/'
  | 'b' => some '\x08'
  | 'f' => some '\x0c'
  | 'n' => some '\n'
  | 'r' => some '\r'
  | 't' => some '\t'
  | _ => none

/-- The code point of a `u` escape, given what follows its `u`, and what follows the escape. Two
escapes that make up a surrogate pair are one character; half a pair stays what it is. -/
def readUnicode (rest : List Char) : Except Fault (Nat × List Char) :=
  match readUnit? rest with
  | none => .error ⟨.badUnicodeEscape, rest.length + 1⟩
  | some (high, rest) =>
    match isHighSurrogate high, rest with
    | true, '\\' :: 'u' :: rest' =>
      match readUnit? rest' with
      | none => .error ⟨.badUnicodeEscape, rest'.length + 1⟩
      | some (low, rest'') =>
        if isLowSurrogate low then .ok (joinSurrogates high low, rest'')
        else .ok (high, rest)
    | _, _ => .ok (high, rest)

/-- The code points up to the closing quote, and what follows it. `opening` is the text from the
opening quote on. -/
def readPoints (opening : List Char) :
    (fuel : Nat) → List Char → Except Fault (List Nat × List Char)
  | 0, _ => refuse .openString opening
  | _ + 1, [] => refuse .openString opening
  | fuel + 1, c :: rest =>
    if c = '"' then .ok ([], rest)
    else if c = '\\' then
      match rest with
      | [] => refuse .openString opening
      | e :: rest' =>
        if e = 'u' then do
          let (decoded, rest'') ← readUnicode rest'
          let (points, after) ← readPoints opening fuel rest''
          return (decoded :: points, after)
        else
          match shortEscape? e with
          | none => .error ⟨.badEscape, rest.length + 1⟩
          | some decoded => do
            let (points, after) ← readPoints opening fuel rest'
            return (decoded.toNat :: points, after)
    else if c.toNat ≤ 0x1F then .error ⟨.controlCharacter, rest.length + 1⟩
    else do
      let (points, after) ← readPoints opening fuel rest
      return (c.toNat :: points, after)

/-- A text, given what follows its opening quote, and what follows the text. -/
def readString (rest : List Char) : Except Fault (Value × List Char) := do
  let (points, after) ← readPoints ('"' :: rest) (rest.length + 1) rest
  return (.ofPoints points, after)

/-! ## Numbers -/

/-- Take a fraction off the front: a point and at least one digit. -/
def takeFraction : List Char → List Char × List Char
  | '.' :: rest =>
    let digits := rest.takeWhile Char.isDigit
    if digits.isEmpty then ([], '.' :: rest) else ('.' :: digits, rest.dropWhile Char.isDigit)
  | cs => ([], cs)

/-- Take an exponent off the front: `e`, a sign or none, and at least one digit. -/
def takeExponent : List Char → List Char × List Char
  | [] => ([], [])
  | e :: rest =>
    if e = 'e' ∨ e = 'E' then
      let sign := match rest with
        | s :: _ => if s = '+' ∨ s = '-' then [s] else []
        | [] => []
      let body := rest.drop sign.length
      let digits := body.takeWhile Char.isDigit
      if digits.isEmpty then ([], e :: rest)
      else (e :: sign ++ digits, body.dropWhile Char.isDigit)
    else ([], e :: rest)

/-- Take the whole part of a number off the front: a zero, or digits that start with another. -/
def takeWhole : List Char → List Char × List Char
  | '0' :: rest => (['0'], rest)
  | cs => (cs.takeWhile Char.isDigit, cs.dropWhile Char.isDigit)

/-- A number and what follows it. An integer has at most `digits` digits. -/
def readNumber (digits : Nat) (cs : List Char) : Except Fault (Value × List Char) :=
  let sign := match cs with
    | '-' :: _ => ['-']
    | _ => []
  let (whole, rest) := takeWhole (cs.drop sign.length)
  if whole.isEmpty then refuse .expectedValue cs
  else
    let (fraction, rest) := takeFraction rest
    let (exponent, rest) := takeExponent rest
    if fraction.isEmpty && exponent.isEmpty then
      if digits < whole.length then refuse .longInteger cs
      else
        let n : Int := Binary64.digitsValue whole
        .ok (.int (if sign.isEmpty then n else -n), rest)
    else
      match Binary64.read? (sign ++ whole ++ fraction ++ exponent) with
      | some x => .ok (.float x, rest)
      | none => refuse .expectedValue cs

/-! ## Values -/

/-- What separates the parts of a document. -/
def isSpace (c : Char) : Bool :=
  c = ' ' || c = '\t' || c = '\n' || c = '\r'

/-- What follows the space at the front. -/
def skipSpace (cs : List Char) : List Char :=
  cs.dropWhile isSpace

/-- The words that are values, and what follows the one at the front. -/
def readWord? (cs : List Char) : Option (Value × List Char) :=
  let words : List (String × Value) :=
    [("null", .null), ("true", .bool true), ("false", .bool false), ("NaN", .float (.nan 0)),
      ("Infinity", .float (.infinity false)), ("-Infinity", .float (.infinity true))]
  words.findSome? fun (word, v) =>
    if word.toList.isPrefixOf cs then some (v, cs.drop word.toList.length) else none

/-- How much of a document is read. -/
structure Limits where
  /-- How deeply arrays and objects may be nested. -/
  depth : Nat
  /-- How many digits an integer may have. -/
  digits : Nat
  deriving DecidableEq, Repr

mutual

/-- A value, in which arrays and objects are nested no deeper than `depth` and integers have at most
`digits` digits, and what follows it. -/
def readValue (digits depth : Nat) : (fuel : Nat) → List Char → Except Fault (Value × List Char)
  | 0, cs => refuse .expectedValue cs
  | _ + 1, [] => refuse .expectedValue []
  | fuel + 1, c :: rest =>
    if c = '"' then readString rest
    else if c = '[' ∨ c = '\x7b' then
      if depth = 0 then refuse .tooDeep (c :: rest)
      else
        match c, skipSpace rest with
        | '[', ']' :: after => .ok (.list [], after)
        | '[', cs => do
          let (items, after) ← readItems digits (depth - 1) fuel cs
          return (.list items, after)
        | _, '\x7d' :: after => .ok (.dict [], after)
        | _, cs => do
          let (members, after) ← readMembers digits (depth - 1) fuel cs
          return (Value.ofEntries members, after)
    else
      match readWord? (c :: rest) with
      | some found => .ok found
      | none => readNumber digits (c :: rest)

/-- The items from the next one up to the closing bracket, and what follows that. -/
def readItems (digits depth : Nat) :
    (fuel : Nat) → List Char → Except Fault (List Value × List Char)
  | 0, cs => refuse .expectedValue cs
  | fuel + 1, cs => do
    let (item, rest) ← readValue digits depth fuel cs
    match skipSpace rest with
    | ']' :: after => return ([item], after)
    | ',' :: rest => do
      let (items, after) ← readItems digits depth fuel (skipSpace rest)
      return (item :: items, after)
    | rest => refuse .expectedComma rest

/-- The members from the next one up to the closing brace, and what follows that. -/
def readMembers (digits depth : Nat) :
    (fuel : Nat) → List Char → Except Fault (List (Value × Value) × List Char)
  | 0, cs => refuse .expectedName cs
  | fuel + 1, cs =>
    match cs with
    | '"' :: rest => do
      let (name, rest) ← readString rest
      match skipSpace rest with
      | ':' :: rest => do
        let (value, rest) ← readValue digits depth fuel (skipSpace rest)
        match skipSpace rest with
        | '\x7d' :: after => return ([(name, value)], after)
        | ',' :: rest => do
          let (members, after) ← readMembers digits depth fuel (skipSpace rest)
          return ((name, value) :: members, after)
        | rest => refuse .expectedComma rest
      | rest => refuse .expectedColon rest
    | cs => refuse .expectedName cs

end

/-- The value of a whole document, within some limits. Each nested call has read a character before,
or stands for a value, so twice the length of the document bounds their depth. -/
def readWithin (limits : Limits) (document : String) : Except Fault Value :=
  let cs := document.toList
  match cs with
  | '\uFEFF' :: _ => refuse .byteOrderMark cs
  | _ => do
    let (v, rest) ← readValue limits.digits limits.depth (2 * cs.length + 2) (skipSpace cs)
    match skipSpace rest with
    | [] => return v
    | rest => refuse .extraData rest

/-- The limits of most documents. The reader calls itself for each bracket, and 988 is what a limit of
1000 nested calls leaves to it at one depth of the stack: called from further down it has less. So
statements about the number itself hold for that depth, and `readWithin` is for any. -/
def usualLimits : Limits := ⟨988, Text.digitLimit⟩

/-- The value of a whole document. -/
def read (document : String) : Except Fault Value :=
  readWithin usualLimits document

end LayeredLint.Json
