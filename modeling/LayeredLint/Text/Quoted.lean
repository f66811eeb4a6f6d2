import LayeredLint.Text.Hex
import LayeredLint.Text.Printable

/-!
# Quoted texts

Messages show a text or a run of bytes in quotes, on one line, with everything that is not
printable written as an escape.

- `quoteMark`: the mark put around a text: `'`, or `"` where the text has the first but not the
  second.
- `quoted`: a text in quotes.
- `quotedPoints`: a text by its code points, some of which may be no characters.
- `quotedBytes`: bytes in quotes, marked by a `b` before them.
-/

namespace LayeredLint.Text

/-- The mark put around a text. -/
def quoteMark (cs : List Char) : Char :=
  if cs.contains '\'' && !cs.contains '"' then '"' else '\''

/-- A character that has a short escape of its own inside the quotes `mark`. -/
def shortEscape? (mark c : Char) : Option (List Char) :=
  if c = mark ∨ c = '\\' then some ['\\', c]
  else if c = '\n' then some ['\\', 'n']
  else if c = '\r' then some ['\\', 'r']
  else if c = '\t' then some ['\\', 't']
  else none

/-- The escape by code point, in the shortest of its three widths. -/
def numericEscape (n : Nat) : List Char :=
  if n < 0x100 then '\\' :: 'x' :: hex 2 n
  else if n < 0x10000 then '\\' :: 'u' :: hex 4 n
  else '\\' :: 'U' :: hex 8 n

/-- How a character is shown inside the quotes `mark`. -/
def quotedChar (mark c : Char) : List Char :=
  (shortEscape? mark c).getD (if isPrintable c then [c] else numericEscape c.toNat)

/-- A text in quotes. -/
def quoted (s : String) : String :=
  let cs := s.toList
  let mark := quoteMark cs
  String.ofList (mark :: cs.flatMap (quotedChar mark) ++ [mark])

/-- How a code point is shown inside the quotes `mark`: half of a surrogate pair as an escape. -/
def quotedPoint (mark : Char) (n : Nat) : List Char :=
  if n.isValidChar then quotedChar mark (Char.ofNat n) else numericEscape n

/-- A text in quotes, by its code points. -/
def quotedPoints (points : List Nat) : String :=
  let mark := quoteMark (points.map Char.ofNat)
  String.ofList (mark :: points.flatMap (quotedPoint mark) ++ [mark])

/-- How a byte is shown inside the quotes `mark`. -/
def quotedByte (mark : Char) (b : UInt8) : List Char :=
  let c := Char.ofNat b.toNat
  (shortEscape? mark c).getD
    (if 0x20 ≤ b.toNat ∧ b.toNat < 0x7F then [c] else numericEscape b.toNat)

/-- Bytes in quotes. -/
def quotedBytes (bytes : List UInt8) : String :=
  let mark := quoteMark (bytes.map fun b => Char.ofNat b.toNat)
  String.ofList ('b' :: mark :: bytes.flatMap (quotedByte mark) ++ [mark])

end LayeredLint.Text
