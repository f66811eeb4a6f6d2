import LayeredLint.Text.Hex

/-!
# Texts in a settings document

- `Toml.Fault`: why a document is refused.
- `Toml.readBasic`, `Toml.readLiteral`: a text in double or in single quotes, on one line or over
  several, and what follows it.
- `Toml.readKey`: a key with its parts.
-/

namespace LayeredLint.Toml

/-- Why a document is refused. -/
inductive Fault where
  /-- The document does not have the form it should. -/
  | malformed
  /-- An integer has more digits than are converted. -/
  | longInteger
  /-- Arrays and tables are nested too deeply. -/
  | tooDeep
  deriving DecidableEq, Repr

/-- The document is refused here. -/
def malformed {α : Type} : Except Fault α :=
  .error .malformed

/-! ## Characters -/

/-- White space inside a line. -/
def isLineSpace (c : Char) : Bool :=
  c = ' ' || c = '\t'

/-- White space, line ends included. -/
def isSpaceOrNewline (c : Char) : Bool :=
  isLineSpace c || c = '\n'

/-- What follows the white space at the front of a line. -/
def skipLineSpace (cs : List Char) : List Char :=
  cs.dropWhile isLineSpace

/-- A control character other than a tab. -/
def isControl (c : Char) : Bool :=
  (c.toNat < 32 && c ≠ '\t') || c.toNat = 127

/-- A character that must not stand in a text as it is; a text over several lines may hold line
ends. -/
def isIllegal (multiline : Bool) (c : Char) : Bool :=
  isControl c && !(multiline && c = '\n')

/-! ## Escapes -/

/-- The character of a number written with exactly `width` digits, and what follows them. -/
def readCodePoint (width : Nat) (cs : List Char) : Except Fault (List Char × List Char) :=
  if (cs.take width).length = width then
    match Text.hexNumber? (cs.take width) with
    | some n => if n.isValidChar then .ok ([Char.ofNat n], cs.drop width) else malformed
    | none => malformed
  else malformed

/-- The character of a one-letter escape. -/
def shortEscape? : Char → Option Char
  | 'b' => some '\x08'
  | 't' => some '\t'
  | 'n' => some '\n'
  | 'f' => some '\x0c'
  | 'r' => some '\r'
  | '"' => some '"'
  | '\\' => some '\\'
  | _ => none

/-- What follows a line end that a backslash takes out of a text, together with all the white space
after it, given what follows the backslash. Before the line end only white space may stand. -/
def skipLineEnd (cs : List Char) : Except Fault (List Char) :=
  match skipLineSpace cs with
  | [] => .ok []
  | '\n' :: rest => .ok (rest.dropWhile isSpaceOrNewline)
  | _ => malformed

/-- What an escape stands for, given what follows its backslash. -/
def readEscape (multiline : Bool) : List Char → Except Fault (List Char × List Char)
  | [] => malformed
  | c :: rest =>
    if multiline && isSpaceOrNewline c then do
      let after ← skipLineEnd (c :: rest)
      return ([], after)
    else if c = 'u' then readCodePoint 4 rest
    else if c = 'U' then readCodePoint 8 rest
    else
      match shortEscape? c with
      | some decoded => .ok ([decoded], rest)
      | none => malformed

/-! ## Texts in quotes -/

/-- Whether a text starts with three of a mark. -/
def startsWithThree (mark : Char) : List Char → Bool
  | a :: b :: c :: _ => a = mark && b = mark && c = mark
  | _ => false

/-- The characters up to the closing quotes, and what follows those. -/
def readBasicChars (multiline : Bool) :
    (fuel : Nat) → List Char → Except Fault (List Char × List Char)
  | 0, _ => malformed
  | _ + 1, [] => malformed
  | fuel + 1, c :: rest =>
    if c = '"' && !multiline then .ok ([], rest)
    else if startsWithThree '"' (c :: rest) then .ok ([], rest.drop 2)
    else if c = '\\' then do
      let (decoded, rest) ← readEscape multiline rest
      let (cs, after) ← readBasicChars multiline fuel rest
      return (decoded ++ cs, after)
    else if isIllegal multiline c then malformed
    else do
      let (cs, after) ← readBasicChars multiline fuel rest
      return (c :: cs, after)

/-- The characters up to the closing apostrophes, and what follows those. -/
def readLiteralChars (multiline : Bool) : List Char → Except Fault (List Char × List Char)
  | [] => malformed
  | c :: rest =>
    if c = '\'' && !multiline then .ok ([], rest)
    else if startsWithThree '\'' (c :: rest) then .ok ([], rest.drop 2)
    else if isIllegal multiline c then malformed
    else do
      let (cs, after) ← readLiteralChars multiline rest
      return (c :: cs, after)

/-- A text on one line in double quotes, given what follows the first of them. -/
def readBasic (rest : List Char) : Except Fault (List Char × List Char) :=
  readBasicChars false (rest.length + 1) rest

/-- A text on one line in apostrophes, given what follows the first of them. -/
def readLiteral (rest : List Char) : Except Fault (List Char × List Char) :=
  readLiteralChars false rest

/-- A line end right after the opening marks does not belong to the text. -/
def skipFirstNewline : List Char → List Char
  | '\n' :: rest => rest
  | cs => cs

/-- The text over several lines ends with the last three marks of at most five. -/
def takeExtraMarks (mark : Char) : List Char × List Char → List Char × List Char
  | (cs, a :: b :: after) =>
    if a = mark ∧ b = mark then (cs ++ [mark, mark], after)
    else if a = mark then (cs ++ [mark], b :: after)
    else (cs, a :: b :: after)
  | (cs, [a]) => if a = mark then (cs ++ [mark], []) else (cs, [a])
  | (cs, []) => (cs, [])

/-- A text over several lines, given what follows the first three marks. -/
def readMultiline (mark : Char) (rest : List Char) : Except Fault (List Char × List Char) :=
  let body := skipFirstNewline rest
  takeExtraMarks mark <$>
    (if mark = '"' then readBasicChars true (body.length + 1) body else readLiteralChars true body)

/-- A text of any form, given what follows its first mark. -/
def readQuoted (mark : Char) (rest : List Char) : Except Fault (String × List Char) := do
  let (cs, after) ←
    if startsWithThree mark (mark :: rest) then readMultiline mark (rest.drop 2)
    else if mark = '"' then readBasic rest
    else readLiteral rest
  return (String.ofList cs, after)

/-! ## Keys -/

/-- A character of a key without quotes. -/
def isBare (c : Char) : Bool :=
  c.isAlphanum || c = '-' || c = '_'

/-- One part of a key: without quotes, or a text on one line. -/
def readKeyPart : List Char → Except Fault (String × List Char)
  | [] => malformed
  | c :: rest =>
    if isBare c then
      .ok (String.ofList ((c :: rest).takeWhile isBare), (c :: rest).dropWhile isBare)
    else if c = '"' then do
      let (cs, after) ← readBasic rest
      return (String.ofList cs, after)
    else if c = '\'' then do
      let (cs, after) ← readLiteral rest
      return (String.ofList cs, after)
    else malformed

/-- The parts of a key, separated by dots, and what follows the white space after it. -/
def readKeyParts : (fuel : Nat) → List Char → Except Fault (List String × List Char)
  | 0, _ => malformed
  | fuel + 1, cs => do
    let (part, rest) ← readKeyPart cs
    match skipLineSpace rest with
    | '.' :: rest => do
      let (parts, after) ← readKeyParts fuel (skipLineSpace rest)
      return (part :: parts, after)
    | after => return ([part], after)

/-- A key with its parts. -/
def readKey (cs : List Char) : Except Fault (List String × List Char) :=
  readKeyParts (cs.length + 1) cs

end LayeredLint.Toml
