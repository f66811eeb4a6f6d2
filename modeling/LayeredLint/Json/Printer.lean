import LayeredLint.Binary64.Decimal
import LayeredLint.Text.Hex
import LayeredLint.Value

/-!
# Printing JSON

Documents are printed in ASCII, on one line or indented. A value that JSON has no form for has no
text: bytes, and the objects of the library except a severity, which is printed as its word.

- `Json.stringText`, `Json.pointsText`: a text in quotes, and a broken one.
- `Json.keyText?`: the member name for a key; numbers, truth values and null are spelled out.
- `Json.line?`: a document on one line.
- `Json.indented?`: a document with each item and member on a line of its own.
-/

namespace LayeredLint.Json

/-! ## Texts -/

/-- The escape of a UTF-16 unit. -/
def unitEscape (n : Nat) : List Char :=
  '\\' :: 'u' :: Text.hex 4 n

/-- The escape of a character by its UTF-16 units. -/
def unicodeEscape (n : Nat) : List Char :=
  if n < 0x10000 then unitEscape n
  else unitEscape (0xD800 + (n - 0x10000) / 0x400) ++ unitEscape (0xDC00 + (n - 0x10000) % 0x400)

/-- How a character is written between quotes. -/
def escapeChar (c : Char) : List Char :=
  if c = '"' then ['\\', '"']
  else if c = '\\' then ['\\', '\\']
  else if c = '\n' then ['\\', 'n']
  else if c = '\r' then ['\\', 'r']
  else if c = '\t' then ['\\', 't']
  else if c = '\x0c' then ['\\', 'f']
  else if c = '\x08' then ['\\', 'b']
  else if 0x20 ≤ c.toNat ∧ c.toNat ≤ 0x7E then [c]
  else unicodeEscape c.toNat

/-- A text in quotes. -/
def stringText (s : String) : List Char :=
  '"' :: s.toList.flatMap escapeChar ++ ['"']

/-- How a code point is written between quotes. Half of a surrogate pair is no character and has an
escape of its own. -/
def escapePoint (n : Nat) : List Char :=
  if n.isValidChar then escapeChar (Char.ofNat n) else unitEscape n

/-- A text in quotes, given by its code points. -/
def pointsText (points : List Nat) : List Char :=
  '"' :: points.flatMap escapePoint ++ ['"']

/-! ## Scalars and member names -/

/-- A floating point number. JSON has no form for NaN and infinity: their names stand for them. -/
def floatText : Binary64 → List Char
  | .nan _ => "NaN".toList
  | .infinity negative => if negative then "-Infinity".toList else "Infinity".toList
  | x => x.text.toList

/-- A truth value. -/
def boolText (b : Bool) : List Char :=
  if b then "true".toList else "false".toList

/-- An integer. -/
def intText (n : Int) : List Char :=
  if n < 0 then '-' :: Nat.toDigits 10 n.natAbs else Nat.toDigits 10 n.natAbs

/-- The member name for a key. -/
def keyText? : Value → Option (List Char)
  | .str s => some (stringText s)
  | .brokenText points => some (pointsText points)
  | .severity s => some (stringText s.word)
  | .null => some ('"' :: "null".toList ++ ['"'])
  | .bool b => some ('"' :: boolText b ++ ['"'])
  | .int n => some ('"' :: intText n ++ ['"'])
  | .float x => some ('"' :: floatText x ++ ['"'])
  | _ => none

/-- A value without parts. -/
def scalarText? : Value → Option (List Char)
  | .null => some "null".toList
  | .bool b => some (boolText b)
  | .int n => some (intText n)
  | .float x => some (floatText x)
  | .str s => some (stringText s)
  | .brokenText points => some (pointsText points)
  | .severity s => some (stringText s.word)
  | _ => none

/-! ## Layout -/

/-- What stands between brackets and items: nothing, or a new line with an indentation. -/
structure Layout where
  /-- Between an opening bracket and the first item of a level. -/
  opening : Nat → List Char
  /-- Between two items of a level. -/
  between : Nat → List Char
  /-- Between the last item of a level and its closing bracket. -/
  closing : Nat → List Char

/-- All on one line, with a blank after each comma. -/
def oneLine : Layout where
  opening _ := []
  between _ := [',', ' ']
  closing _ := []

/-- A new line, indented by two blanks for each level. -/
def newLine (level : Nat) : List Char :=
  '\n' :: List.replicate (2 * level) ' '

/-- Each item on a line of its own. -/
def lines : Layout where
  opening level := newLine (level + 1)
  between level := ',' :: newLine (level + 1)
  closing level := newLine level

/-- Brackets around the items of a level, which touch where there are none. -/
def enclose (layout : Layout) (level : Nat) (opening closing : Char) : List (List Char) → List Char
  | [] => [opening, closing]
  | items =>
    opening :: layout.opening level ++ (layout.between level).intercalate items ++
      layout.closing level ++ [closing]

mutual

/-- The text of a value whose brackets open at a level. -/
def text? (layout : Layout) (level : Nat) : Value → Option (List Char)
  | .list items => (itemTexts? layout (level + 1) items).map (enclose layout level '[' ']')
  | .tuple items => (itemTexts? layout (level + 1) items).map (enclose layout level '[' ']')
  | .dict entries =>
    (memberTexts? layout (level + 1) entries).map (enclose layout level '\x7b' '\x7d')
  | v => scalarText? v

/-- The texts of items. -/
def itemTexts? (layout : Layout) (level : Nat) : List Value → Option (List (List Char))
  | [] => some []
  | v :: rest => do
    let item ← text? layout level v
    let items ← itemTexts? layout level rest
    return item :: items

/-- The texts of members: name, colon and value. -/
def memberTexts? (layout : Layout) (level : Nat) :
    List (Value × Value) → Option (List (List Char))
  | [] => some []
  | (k, v) :: rest => do
    let name ← keyText? k
    let value ← text? layout level v
    let members ← memberTexts? layout level rest
    return (name ++ ':' :: ' ' :: value) :: members

end

/-- A document on one line. -/
def line? (v : Value) : Option String :=
  (text? oneLine 0 v).map String.ofList

/-- A document with each item and member on a line of its own. -/
def indented? (v : Value) : Option String :=
  (text? lines 0 v).map String.ofList

end LayeredLint.Json
