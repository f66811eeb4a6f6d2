import LayeredLint.Path
import LayeredLint.Text.Digit
import LayeredLint.Text.Hex
import LayeredLint.Text.Lines

/-!
# Tokens of literals

- `Literal.Number`: a number, as far as sums of numbers depend on it.
- `Literal.Token`: what a literal is written with.
- `Literal.number?`, `Literal.quotedText?`: the number or the quoted text at the front of a text.
- `Literal.tokens?`: the tokens of a text, none where it has none.
-/

namespace LayeredLint.Console.Literal

/-- A number. Only of a whole number does it matter which one it is. -/
inductive Number where
  | whole (n : Nat)
  | real
  | imaginary
  deriving DecidableEq, Repr

/-- What a literal is written with. -/
inductive Token where
  | openParen
  | closeParen
  | openBrace
  | closeBrace
  | comma
  | colon
  | plus
  | minus
  | number (n : Number)
  /-- A text in quotes, or bytes. -/
  | quoted (bytes : Bool)
  /-- A truth value, or another constant. -/
  | constant
  /-- The word before the parentheses of an empty set. -/
  | setWord
  deriving DecidableEq, Repr

/-! ## Numbers -/

/-- A character that continues a word. -/
def continuesWord (c : Char) : Bool :=
  c.isAlphanum || c = '_' || 0x80 ≤ c.toNat

/-- The digits at the front of a text, and what follows. An underscore may stand between two of them
and is left out. -/
def takeDigits (isDigit : Char → Bool) : List Char → List Char × List Char
  | [] => ([], [])
  | [c] => if isDigit c then ([c], []) else ([], [c])
  | c :: d :: rest =>
    if !isDigit c then ([], c :: d :: rest)
    else if d = '_' then
      match rest with
      | e :: _ =>
        if isDigit e then
          let (digits, after) := takeDigits isDigit rest
          (c :: digits, after)
        else ([c], d :: rest)
      | [] => ([c], [d])
    else
      let (digits, after) := takeDigits isDigit (d :: rest)
      (c :: digits, after)

/-- The base that a letter after a zero stands for. -/
def baseOf? (c : Char) : Option Nat :=
  if c = 'x' ∨ c = 'X' then some 16
  else if c = 'o' ∨ c = 'O' then some 8
  else if c = 'b' ∨ c = 'B' then some 2
  else none

/-- A whole number in a base that is written out; an underscore may follow the letter. -/
def basedNumber? (base : Nat) (cs : List Char) : Option (Number × List Char) :=
  let digits := if cs.head? = some '_' then cs.tail else cs
  match takeDigits (fun c => (Text.hexValue? c).any (· < base)) digits with
  | ([], _) => none
  | (digits, after) =>
    some (.whole (digits.foldl (fun n c => base * n + (Text.hexValue? c).getD 0) 0), after)

/-- The exponent at the front of a text, if there is one, and what follows. -/
def takeExponent (cs : List Char) : Bool × List Char :=
  match cs with
  | e :: rest =>
    let digits := match rest with
      | '+' :: rest => rest
      | '-' :: rest => rest
      | rest => rest
    if e = 'e' ∨ e = 'E' then
      match takeDigits Char.isDigit digits with
      | ([], _) => (false, cs)
      | (_, after) => (true, after)
    else (false, cs)
  | [] => (false, [])

/-- The whole number of decimal digits. Only zeros may follow a zero at the front, and there is a
limit to the count of digits. -/
def wholeNumber? (digits : List Char) : Option Number :=
  if digits.all (· = '0') then some (.whole 0)
  else if digits.head? = some '0' || Text.digitLimit < digits.length then none
  else some (.whole (digits.foldl (fun n c => 10 * n + (c.toNat - 48)) 0))

/-- A number in decimal digits with an optional fraction, exponent, and mark of an imaginary one. -/
def decimalNumber? (cs : List Char) : Option (Number × List Char) :=
  let (digits, afterDigits) := takeDigits Char.isDigit cs
  let (hasPoint, places, afterPlaces) := match afterDigits with
    | '.' :: rest =>
      let (places, after) := takeDigits Char.isDigit rest
      (true, places, after)
    | rest => (false, [], rest)
  let (hasExponent, after) := takeExponent afterPlaces
  if digits.isEmpty && places.isEmpty then none
  else
    match after with
    | 'j' :: rest => some (.imaginary, rest)
    | 'J' :: rest => some (.imaginary, rest)
    | _ =>
      if hasPoint || hasExponent then some (.real, after)
      else (wholeNumber? digits).map fun n => (n, after)

/-- The number at the front of a text, and what follows. No word may follow directly. -/
def number? (cs : List Char) : Option (Number × List Char) := do
  let (n, after) ← match cs with
    | '0' :: c :: rest =>
      match baseOf? c with
      | some base => basedNumber? base rest
      | none => decimalNumber? cs
    | _ => decimalNumber? cs
  if after.head?.any continuesWord then none else some (n, after)

/-! ## Texts in quotes -/

/-- A text up to the mark that closes it, and what follows the mark. A text in single marks stays on
its line; a backslash keeps what follows it. -/
def upToMark? (mark : Char) : List Char → Option (List Char × List Char)
  | [] => none
  | '\\' :: c :: rest => do
    let (inside, after) ← upToMark? mark rest
    return ('\\' :: c :: inside, after)
  | c :: rest =>
    if c = mark then some ([], rest)
    else if c = '\n' then none
    else do
      let (inside, after) ← upToMark? mark rest
      return (c :: inside, after)

/-- A text up to three marks in a row, and what follows them. -/
def upToMarks? (mark : Char) : List Char → Option (List Char × List Char)
  | [] => none
  | '\\' :: c :: rest => do
    let (inside, after) ← upToMarks? mark rest
    return ('\\' :: c :: inside, after)
  | c :: rest =>
    if c = mark && rest.take 2 = [mark, mark] then some ([], rest.drop 2)
    else do
      let (inside, after) ← upToMarks? mark rest
      return (c :: inside, after)

/-- What stands in quotes after the mark at the front, and what follows. -/
def betweenMarks? : List Char → Option (List Char × List Char)
  | [] => none
  | mark :: rest =>
    if rest.take 2 = [mark, mark] then upToMarks? mark (rest.drop 2) else upToMark? mark rest

/-- A text starts with some count of hexadecimal digits. -/
def startsWithHex (count : Nat) (cs : List Char) : Bool :=
  (cs.take count).length = count && (cs.take count).all fun c => (Text.hexValue? c).isSome

/-- A text starts with the eight digits of a code point. -/
def startsWithCodePoint (cs : List Char) : Bool :=
  startsWithHex 8 cs && (Text.hexNumber? (cs.take 8)).any (· ≤ 0x10FFFF)

/-- A text starts with the name of a character in braces. -/
def startsWithName : List Char → Bool
  | '\x7b' :: rest =>
    let name := rest.takeWhile fun c => c.isAlphanum || c = ' ' || c = '-'
    !name.isEmpty && rest[name.length]? = some '\x7d'
  | _ => false

/-- Every escape that takes digits or a name has them. Bytes have fewer escapes. -/
def hasGoodEscapes (bytes : Bool) : List Char → Bool
  | '\\' :: c :: rest =>
    let good :=
      if c = 'x' then startsWithHex 2 rest
      else if bytes then true
      else if c = 'u' then startsWithHex 4 rest
      else if c = 'U' then startsWithCodePoint rest
      else if c = 'N' then startsWithName rest
      else true
    good && hasGoodEscapes bytes rest
  | _ :: rest => hasGoodEscapes bytes rest
  | [] => true

/-- What the letters before a mark say: whether the quotes hold bytes, and whether backslashes stand
for themselves. -/
def quoting? (letters : List Char) : Option (Bool × Bool) :=
  match letters.map Char.toLower with
  | [] => some (false, false)
  | ['u'] => some (false, false)
  | ['r'] => some (false, true)
  | ['b'] => some (true, false)
  | ['b', 'r'] => some (true, true)
  | ['r', 'b'] => some (true, true)
  | _ => none

/-- Whether the text in quotes at the front of a text holds bytes, and what follows it, given the
letters before the mark. -/
def quotedText? (letters cs : List Char) : Option (Bool × List Char) := do
  let (bytes, raw) ← quoting? letters
  let (inside, after) ← betweenMarks? cs
  let good := (raw || hasGoodEscapes bytes inside) && (!bytes || inside.all fun c => c.toNat < 0x80)
  if good then some (bytes, after) else none

/-! ## Tokens -/

/-- The token of a sign. -/
def sign? (c : Char) : Option Token :=
  if c = '(' then some .openParen
  else if c = ')' then some .closeParen
  else if c = '\x7b' then some .openBrace
  else if c = '\x7d' then some .closeBrace
  else if c = ',' then some .comma
  else if c = ':' then some .colon
  else if c = '+' then some .plus
  else if c = '-' then some .minus
  else none

/-- The token of a word. -/
def word? (word : List Char) : Option Token :=
  if word = "set".toList then some .setWord
  else if ["True".toList, "False".toList, "None".toList].contains word then some .constant
  else none

/-- The token at the front of a text, and what follows it. -/
def token? (cs : List Char) : Option (Token × List Char) :=
  match cs with
  | '.' :: '.' :: '.' :: rest => some (.constant, rest)
  | c :: rest =>
    if c.isDigit || c = '.' then (number? cs).map fun (n, after) => (.number n, after)
    else
      match sign? c with
      | some token => some (token, rest)
      | none =>
        let word := cs.takeWhile continuesWord
        let after := cs.dropWhile continuesWord
        if after.head?.any fun d => d = '\'' || d = '"' then
          (quotedText? word after).map fun (bytes, after) => (.quoted bytes, after)
        else (word? word).map (·, after)
  | [] => none

/-- A blank inside a line. -/
def isSpace (c : Char) : Bool :=
  c = ' ' || c = '\t' || c = '\x0c'

/-- A line with blanks and a comment at most. -/
def isEmptyLine (line : List Char) : Bool :=
  let rest := line.dropWhile isSpace
  rest.isEmpty || rest.head? = some '#'

/-- The most brackets inside one another. -/
def nestingLimit : Nat := 200

/-- The count of open brackets after a token, none where there are too many or none to close. -/
def depthAfter? (depth : Nat) : Token → Option Nat
  | .openParen => if depth < nestingLimit then some (depth + 1) else none
  | .openBrace => if depth < nestingLimit then some (depth + 1) else none
  | .closeParen => if depth = 0 then none else some (depth - 1)
  | .closeBrace => if depth = 0 then none else some (depth - 1)
  | _ => some depth

/-- The tokens of a text inside some brackets. A literal ends with its line, but lines inside
brackets are joined, and so are lines after a backslash. -/
def tokensFrom? : (fuel depth : Nat) → List Char → Option (List Token)
  | 0, _, _ => none
  | _ + 1, depth, [] => if depth = 0 then some [] else none
  | fuel + 1, depth, c :: rest =>
    if isSpace c then tokensFrom? fuel depth rest
    else if c = '#' then tokensFrom? fuel depth (rest.dropWhile (· ≠ '\n'))
    else if c = '\n' then
      if depth = 0 then
        if (Path.splitChars '\n' rest).all isEmptyLine then some [] else none
      else tokensFrom? fuel depth rest
    else if c = '\\' then
      match rest with
      | '\n' :: d :: after => tokensFrom? fuel depth (d :: after)
      | _ => none
    else do
      let (token, after) ← token? (c :: rest)
      let depth ← depthAfter? depth token
      let tokens ← tokensFrom? fuel depth after
      return token :: tokens

/-- The tokens of a text. Lines with nothing on them, or with a backslash alone, may stand before
the first, which no blank precedes. -/
def tokens? (cs : List Char) : Option (List Token) :=
  let lines := (Path.splitChars '\n' (Text.universalNewlines cs)).dropWhile fun line =>
    isEmptyLine line || line = ['\\']
  let text := (lines.intersperse ['\n']).flatten
  if text.head?.any isSpace || cs.contains '\x00' then none
  else tokensFrom? (text.length + 1) 0 text

end LayeredLint.Console.Literal
